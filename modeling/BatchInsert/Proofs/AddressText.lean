import BatchInsert.Proofs.Numerals
import BatchInsert.Proofs.PercentText
import Mathlib.Tactic.Ring

/-!
# Addresses read back

An address is read back from its text. An IPv6 address is written with its first longest run of
zeros left out, in place of which the reader puts as many zeros as are missing to eight pieces; an
IPv4 address is written as its four bytes.
-/

namespace BatchInsert.Proofs

open Url

/-! ### Bounds of numerals -/

section Traversal

variable {α β : Type} {f : α → Option β}

lemma mapM_eq_some_map {g : β → α} {bs : List β} (h : ∀ b ∈ bs, f (g b) = some b) :
    (bs.map g).mapM f = some bs := by
  induction bs with
  | nil => rfl
  | cons b bs ih =>
    obtain ⟨hb, hbs⟩ := List.forall_mem_cons.mp h
    simp [hb, ih hbs]

lemma mapM_cons_eq_some {a : α} {as : List α} {bs : List β} (h : (a :: as).mapM f = some bs) :
    ∃ b rest, f a = some b ∧ as.mapM f = some rest ∧ bs = b :: rest := by
  rw [List.mapM_cons] at h
  obtain ⟨b, hb, h⟩ := Option.bind_eq_some_iff.mp h
  obtain ⟨rest, hrest, h⟩ := Option.bind_eq_some_iff.mp h
  exact ⟨b, rest, hb, hrest, (Option.some.inj h).symm⟩

lemma length_of_mapM {as : List α} {bs : List β} (h : as.mapM f = some bs) :
    bs.length = as.length := by
  induction as generalizing bs with
  | nil =>
    cases h
    rfl
  | cons a as ih =>
    obtain ⟨b, rest, -, hrest, rfl⟩ := mapM_cons_eq_some h
    rw [List.length_cons, List.length_cons, ih hrest]

lemma exists_of_mem_mapM {as : List α} {bs : List β} (h : as.mapM f = some bs) {b : β}
    (hb : b ∈ bs) : ∃ a ∈ as, f a = some b := by
  induction as generalizing bs with
  | nil =>
    cases h
    cases hb
  | cons a as ih =>
    obtain ⟨b', rest, hb', hrest, rfl⟩ := mapM_cons_eq_some h
    rcases List.mem_cons.mp hb with rfl | hb
    · exact ⟨a, List.mem_cons_self, hb'⟩
    · obtain ⟨a', ha', hf⟩ := ih hrest hb
      exact ⟨a', List.mem_cons_of_mem a ha', hf⟩

end Traversal

/-! ### IPv6 -/

section Ipv6

/-- Pieces with a colon between them. -/
def shown (pieces : List Nat) : List Char := joinWith [':'] (pieces.map Text.hexChars)

end Ipv6

/-! ### IPv4 -/

section Ipv4

lemma decimalChars_chars (n : Nat) : ∀ c ∈ Text.decimalChars n, Text.isDigit c = true :=
  (isNumeral_decimalChars n).forall_isDigit

end Ipv4

end BatchInsert.Proofs
