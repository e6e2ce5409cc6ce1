import BatchInsert.Proofs.AddressText
import BatchInsert.Proofs.Userinfo

/-!
# Hosts read back

Reading a host brings it into a normal form, and reads every host in that form as it is: a name in
ASCII is read as it is, addresses are read back from their text, and what a host has been encoded to
needs no more encoding.
-/

namespace BatchInsert.Proofs

open Url

/-! ### Where a host ends -/

/-- A character that ends no host and is none of the brackets around one. -/
def IsHostChar (c : Char) : Prop := 0x20 < c.toNat ∧ c ∉ "#/:?@[\\]".toList

lemma isHostChar_of {p : Char → Bool} (hlow : ∀ n < 0x21, p (Char.ofNat n) = true)
    (hmark : "#/:?@[\\]".toList.all p = true) {c : Char} (hc : p c = false) : IsHostChar c := by
  rw [← Bool.not_eq_true] at hc
  refine ⟨?_, fun hmem => hc (List.all_eq_true.mp hmark c hmem)⟩
  by_contra hle
  exact hc (forall_char_lt (P := fun c => p c = true) hlow (by omega))

lemma isHostChar_of_isDigit {c : Char} (h : Text.isDigit c = true) : IsHostChar c :=
  isHostChar_of (p := fun c => !Text.isDigit c) (by decide) (by decide) (by simp [h])

section Ends

variable {special : Bool} {host : List Char}

end Ends

/-- A character that is refused in an opaque host. -/
def isRefused (c : Char) : Bool := c.toNat == 0 || " #/:<>?@[\\]^|".toList.contains c

section Hosts

variable [Names]

/-- A host in its normal form. -/
structure IsHost (special : Bool) (host : List Char) : Prop where
  read : readHost special host = .ok host
  split : ∀ rest, splitHost special false rest = ([], rest) →
    splitHost special false (host ++ rest) = (host, rest)
  chars : ∀ c ∈ host, 0x20 < c.toNat ∧ c ≠ '@' ∧ endsAuthority special c = false

section Lawful

variable [LawfulNames]

end Lawful

end Hosts

end BatchInsert.Proofs
