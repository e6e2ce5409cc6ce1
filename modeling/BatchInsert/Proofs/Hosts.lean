import BatchInsert.Url.Host
import Mathlib.Data.List.Basic

/-!
# Hosts have no `@`

An `@` is no digit of an address and refused in a name, written as it is or encoded. A host of a
URL with a special scheme that has one is therefore refused.
-/

namespace BatchInsert.Proofs

open Url

/-! ### Results -/

lemma exists_of_bind_ok {ε α β : Type} {x : Except ε α} {f : α → Except ε β} {r : β}
    (h : x >>= f = .ok r) : ∃ a, x = .ok a ∧ f a = .ok r := by
  cases x with
  | error e => cases h
  | ok a => exact ⟨a, rfl, h⟩

/-! ### Parts of a text -/

section Parts

variable {c mark : Char}

lemma mem_splitAt {cs : List Char} (hc : c ∈ cs) (hmark : c ≠ mark) :
    ∃ part ∈ splitAt mark cs, c ∈ part := by
  induction cs with
  | nil => simp at hc
  | cons d cs ih =>
    have hbehind (h : c ∈ cs) : ∃ part ∈ splitAt mark (d :: cs), c ∈ part := by
      obtain ⟨part, hpart, hc⟩ := ih h
      rw [splitAt]
      split
      · exact ⟨part, List.mem_cons_of_mem _ hpart, hc⟩
      · split
        · simp_all
        · rename_i first others heq
          rw [heq] at hpart
          rcases List.mem_cons.mp hpart with rfl | hpart
          · exact ⟨_, List.mem_cons_self, List.mem_cons_of_mem _ hc⟩
          · exact ⟨part, List.mem_cons_of_mem _ hpart, hc⟩
    rcases List.mem_cons.mp hc with rfl | hc
    · rw [splitAt, if_neg (by simpa using hmark)]
      split <;> simp
    · exact hbehind hc

lemma mapM_eq_none {α β : Type} {f : α → Option β} {a : α} {l : List α} (ha : a ∈ l)
    (hf : f a = none) : l.mapM f = none := by
  induction l with
  | nil => simp at ha
  | cons b l ih =>
    rcases List.mem_cons.mp ha with rfl | ha
    · simp [hf]
    · simp [ih ha]

end Parts

/-! ### Addresses -/

section Addresses

variable {cs : List Char}

lemma digitsValue?_of_at (hcs : '@' ∈ cs) (base acc : Nat) :
    Text.digitsValue? base acc cs = none := by
  induction cs generalizing acc with
  | nil => simp at hcs
  | cons c cs ih =>
    rcases List.mem_cons.mp hcs with rfl | hcs
    · rfl
    · simp [Text.digitsValue?, ih hcs]

lemma natural?_of_at (hcs : '@' ∈ cs) (base : Nat) : Text.natural? base cs = none := by
  rw [Text.natural?, digitsValue?_of_at hcs, ite_self]

lemma octet?_of_at (hcs : '@' ∈ cs) : Ipv6.octet? cs = none := by
  rw [Ipv6.octet?, natural?_of_at hcs, Option.filter_none, ite_self]

lemma pieces?_of_at {groups : List (List Char)} (hgroups : ∃ group ∈ groups, '@' ∈ group) :
    Ipv6.pieces? groups = none := by
  induction groups with
  | nil => simp at hgroups
  | cons group groups ih =>
    cases groups with
    | nil =>
      have hgroup : '@' ∈ group := by simpa using hgroups
      obtain ⟨part, hpart, hat⟩ := mem_splitAt hgroup (show '@' ≠ '.' by decide)
      simp only [Ipv6.pieces?, mapM_eq_none hpart (octet?_of_at hat), natural?_of_at hgroup]
      simp
    | cons next groups =>
      obtain ⟨found, hfound, hat⟩ := hgroups
      rw [Ipv6.pieces?]
      split
      · rcases List.mem_cons.mp hfound with rfl | hfound
        · simp [natural?_of_at hat]
        · simp [ih ⟨found, hfound, hat⟩]
      · rfl
      · simp

lemma groups_of_at (hcs : '@' ∈ cs) : ∃ group ∈ Ipv6.groups cs, '@' ∈ group := by
  rw [Ipv6.groups, if_neg (by simpa using List.ne_nil_of_mem hcs)]
  exact mem_splitAt hcs (by decide)

lemma splitGap?_of_at (hcs : '@' ∈ cs) {before after : List Char}
    (hgap : Ipv6.splitGap? cs = some (before, after)) : '@' ∈ before ∨ '@' ∈ after := by
  fun_induction Ipv6.splitGap? cs generalizing before after with
  | case1 cs =>
    cases hgap
    exact .inr (by simpa using hcs)
  | case2 c cs _ ih =>
    obtain ⟨⟨front, _⟩, hfront, heq⟩ := Option.map_eq_some_iff.mp hgap
    cases heq
    rcases List.mem_cons.mp hcs with rfl | hcs
    · exact .inl List.mem_cons_self
    · exact (ih hcs hfront).imp_left (List.mem_cons_of_mem c)
  | case3 => simp at hcs

lemma ipv6_of_at (hcs : '@' ∈ cs) : Ipv6.read? cs = none := by
  rw [Ipv6.read?]
  split
  · rw [pieces?_of_at (groups_of_at hcs), Option.filter_none]
  · rename_i before after hgap
    rcases splitGap?_of_at hcs hgap with hat | hat
    · simp [pieces?_of_at (groups_of_at hat)]
    · simp [pieces?_of_at (groups_of_at hat)]

lemma ipv6Host_of_at (hhead : cs.head? = some '[') (hcs : '@' ∈ cs) :
    ipv6Host cs = .error .invalidIpv6 := by
  have hinside (hlast : cs.getLast? = some ']') : '@' ∈ (cs.drop 1).dropLast := by
    obtain ⟨cs, rfl⟩ := List.head?_eq_some_iff.mp hhead
    have hat : '@' ∈ cs := by simpa using hcs
    have hsame : cs.getLast? = some ']' := by
      rw [← hlast, List.getLast?_cons_of_ne_nil (List.ne_nil_of_mem hat)]
    exact List.mem_dropLast_of_mem_of_ne_getLast? hat (by simp [hsame])
  have hnone : (if cs.getLast? == some ']' then Ipv6.read? (cs.drop 1).dropLast else none) =
      none := by
    split
    · rename_i hlast
      exact ipv6_of_at (hinside (beq_iff_eq.mp hlast))
    · rfl
  simp only [ipv6Host, hnone]

end Addresses

/-! ### Bytes of names -/

lemma at_of_mem_utf8EncodeChar {c : Char} (h : 0x40 ∈ String.utf8EncodeChar c) : c = '@' := by
  have hbyte {n : Nat} (hn : 0x80 ≤ n ∧ n < 0x100) : 0x40 ≠ UInt8.ofNat n := by
    intro h
    have := congrArg UInt8.toNat h
    simp only [UInt8.toNat_ofNat', UInt8.reduceToNat] at this
    omega
  rw [String.utf8EncodeChar] at h
  split at h
  · have hn := congrArg UInt8.toNat (List.mem_singleton.mp h)
    simp only [UInt8.toNat_ofNat', UInt8.reduceToNat] at hn
    refine Char.toNat_inj.mp ?_
    change c.val.toNat = 64
    omega
  · exfalso
    split at h
    · simp only [List.mem_cons, List.not_mem_nil, or_false] at h
      rcases h with h | h <;> exact hbyte (by omega) h
    · split at h
      · simp only [List.mem_cons, List.not_mem_nil, or_false] at h
        rcases h with h | h | h <;> exact hbyte (by omega) h
      · simp only [List.mem_cons, List.not_mem_nil, or_false] at h
        rcases h with h | h | h | h <;> exact hbyte (by omega) h

lemma mem_percentDecode {cs : List Char} (hcs : '@' ∈ cs) : 0x40 ∈ percentDecode cs := by
  fun_induction percentDecode cs with
  | case1 => simp at hcs
  | case2 h l cs a b hl hh ih =>
    -- The two digits of an encoded byte are no `@`.
    have hdigit {c : Char} {n : Nat} (hc : Text.digitValue? 16 c = some n) : '@' ≠ c := by
      rintro rfl
      cases hc
    have hbehind : '@' ∈ cs := by simpa [hdigit hh, hdigit hl] using hcs
    exact List.mem_cons_of_mem _ (ih hbehind)
  | case3 h l cs _ ih =>
    exact List.mem_append_right _ (ih (by simpa using hcs))
  | case4 c cs _ ih =>
    rcases List.mem_cons.mp hcs with rfl | hcs
    · exact List.mem_append_left _ (by decide)
    · exact List.mem_append_right _ (ih hcs)

lemma utf8Text?_eq_some {bytes : List UInt8} {cs : List Char} (h : utf8Text? bytes = some cs) :
    bytes = utf8Bytes cs := by
  obtain ⟨s, hs, rfl⟩ := Option.map_eq_some_iff.mp h
  rw [String.fromUTF8?] at hs
  split at hs
  · rename_i hvalid
    cases hs
    have hbytes := String.utf8Encode_toList (b := String.fromUTF8 ⟨bytes.toArray⟩ hvalid)
    rw [List.utf8Encode] at hbytes
    have hlist := congrArg (fun array => array.data.toList) hbytes
    simp only [List.data_toByteArray] at hlist
    exact hlist.symm
  · cases hs

lemma at_mem_of_utf8Text? {bytes : List UInt8} {cs : List Char} (h : utf8Text? bytes = some cs)
    (hbytes : 0x40 ∈ bytes) : '@' ∈ cs := by
  rw [utf8Text?_eq_some h] at hbytes
  obtain ⟨c, hc, hbyte⟩ := List.mem_flatMap.mp hbytes
  exact at_of_mem_utf8EncodeChar hbyte ▸ hc

/-- A host with an `@` is none. -/
theorem specialHost_of_at [Names] [LawfulNames] {cs : List Char} (hcs : '@' ∈ cs) :
    (specialHost cs).toOption = none := by
  rw [specialHost]
  split
  · rename_i hhead
    rw [ipv6Host_of_at (beq_iff_eq.mp hhead) hcs]
    rfl
  · cases hname : utf8Text? (percentDecode cs) with
    | none => rfl
    | some name =>
      have hat := at_mem_of_utf8Text? hname (mem_percentDecode hcs)
      rw [Option.bind_some, LawfulNames.at_refused hat]
      rfl

end BatchInsert.Proofs
