import BatchInsert.Proofs.PathText

/-!
# URLs with a password read back

A URL with a password is read into a normal form, part by part, and every URL in that form is read
back from its text. The text has neither blanks nor controls, and each part is over where the mark
of the next one stands.
-/

namespace BatchInsert.Proofs

open Url

/-! ### Visible characters -/

/-- No blank and no control. -/
def IsVisible (c : Char) : Prop := 0x20 < c.toNat

instance (c : Char) : Decidable (IsVisible c) := inferInstanceAs (Decidable (_ < _))

lemma visible_of_encoded {set : EncodeSet} {cs : List Char} (hblank : set ' ' = true)
    (h : Encoded set cs) : ∀ c ∈ cs, IsVisible c := by
  intro c hc
  obtain ⟨hlow, -, hset⟩ := h c hc
  have hne : c.toNat ≠ 0x20 := by
    intro heq
    have hchar : c = ' ' := Char.toNat_inj.mp heq
    rw [hchar, hblank] at hset
    cases hset
  exact Nat.lt_of_le_of_ne hlow hne.symm

/-- A scheme that is read as it is. -/
structure IsScheme (scheme : List Char) : Prop where
  read : ∀ rest, schemeRest? [] (scheme ++ ':' :: rest) = some (scheme, rest)
  visible : ∀ c ∈ scheme, IsVisible c

/-- What may follow an authority: nothing, or a path, a query or a fragment. -/
def StartsTail (rest : List Char) : Prop :=
  ∀ c, rest.head? = some c → c = '/' ∨ c = '?' ∨ c = '#'

section Tails

variable {rest : List Char}

lemma StartsTail.endsAuthority (h : StartsTail rest) {c : Char} (hc : rest.head? = some c)
    (special : Bool) : endsAuthority special c = true := by
  rcases h c hc with rfl | rfl | rfl <;> cases special <;> rfl

lemma StartsTail.splitHost (h : StartsTail rest) (special : Bool) :
    splitHost special false rest = ([], rest) := by
  cases rest with
  | nil => rfl
  | cons c rest => rw [Url.splitHost, h.endsAuthority rfl special]; rfl

end Tails

/-! ### Ports -/

/-- An authority with a password, in its normal form. -/
structure IsAuthority [Names] (scheme : List Char) (a : Authority) : Prop where
  username : Encoded .userinfo a.username
  password : ∃ p, a.password = some p ∧ p ≠ [] ∧ Encoded .userinfo p
  host : IsHost (family scheme == .special) a.host
  host_ne_nil : a.host ≠ []
  port : ∀ n, a.port = some n → n < 65536 ∧ some n ≠ defaultPort? scheme

lemma mem_port {port : Option Nat} {c : Char}
    (hc : c ∈ optional ':' (port.map Text.decimalChars)) : c = ':' ∨ Text.isDigit c = true := by
  refine (mem_optional hc).imp_right ?_
  rintro ⟨digits, hdigits, hc⟩
  obtain ⟨n, -, rfl⟩ := Option.map_eq_some_iff.mp hdigits
  exact decimalChars_chars n c hc

lemma chars_of_password {a : Authority} {p : List Char} (hp : a.password = some p) :
    a.chars = a.username ++ ':' :: p ++
      '@' :: (a.host ++ optional ':' (a.port.map Text.decimalChars)) := by
  cases hport : a.port <;>
    simp [Authority.chars, Authority.userinfo, hp, hport, Url.optional]

lemma visible_authority [Names] {scheme : List Char} {a : Authority} (h : IsAuthority scheme a) :
    ∀ c ∈ a.chars, IsVisible c := by
  obtain ⟨p, hp, -, hp_encoded⟩ := h.password
  rw [chars_of_password hp]
  simp only [List.forall_mem_append, List.forall_mem_cons]
  refine ⟨⟨visible_of_encoded (by decide) h.username, by decide,
    visible_of_encoded (by decide) hp_encoded⟩, by decide, fun c hc => (h.host.chars c hc).1, ?_⟩
  intro c hc
  rcases mem_port hc with rfl | hdigit
  · decide
  · exact (isHostChar_of_isDigit hdigit).1

/-- The characters that are encoded in a query. -/
def querySet (scheme : List Char) : EncodeSet :=
  if family scheme == .other then .query else .specialQuery

/-- A URL with a password, in its normal form. -/
structure IsNormalUrl [Names] (u : Url) (a : Authority) : Prop where
  authority : u.authority = some a
  scheme : IsScheme u.scheme
  not_file : family u.scheme ≠ .file
  isAuthority : IsAuthority u.scheme a
  path : IsPath (family u.scheme == .special) u.path
  query : ∀ q, u.query = some q → Encoded (querySet u.scheme) q
  fragment : ∀ f, u.fragment = some f → Encoded .fragment f

/-- What follows the authority of a URL. -/
def tailChars (u : Url) : List Char := u.path ++ optional '?' u.query ++ optional '#' u.fragment

namespace IsNormalUrl

variable [Names] {u : Url} {a : Authority}

lemma chars_eq (h : IsNormalUrl u a) :
    u.chars = u.scheme ++ ':' :: '/' :: '/' :: (a.chars ++ tailChars u) := by
  simp [Url.chars, h.authority, tailChars]

lemma visible (h : IsNormalUrl u a) : ∀ c ∈ u.chars, IsVisible c := by
  rw [h.chars_eq, tailChars]
  simp only [List.forall_mem_append, List.forall_mem_cons]
  refine ⟨h.scheme.visible, by decide, by decide, by decide, visible_authority h.isAuthority,
    ⟨visible_of_encoded (by decide) h.path.encoded, ?_⟩, ?_⟩
  · intro c hc
    rcases mem_optional hc with rfl | ⟨q, hq, hc⟩
    · decide
    · have hblank : querySet u.scheme ' ' = true := by
        rw [querySet]
        split <;> decide
      exact visible_of_encoded hblank (h.query q hq) c hc
  · intro c hc
    rcases mem_optional hc with rfl | ⟨f, hf, hc⟩
    · decide
    · exact visible_of_encoded (by decide) (h.fragment f hf) c hc

end IsNormalUrl

end BatchInsert.Proofs
