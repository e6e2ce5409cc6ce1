/-!
# Letter case

Only the letters of ASCII have two cases here.
-/

namespace BatchInsert.Text

def lower (s : String) : String := String.ofList (s.toList.map Char.toLower)

/-- Equality up to the case of letters. -/
def sameLetters (s t : String) : Bool := s.toList.map Char.toLower == t.toList.map Char.toLower

theorem toLower_of_not_upper {c : Char} (h : ¬(65 ≤ c.toNat ∧ c.toNat ≤ 90)) : c.toLower = c :=
  dif_neg h

theorem sameLetters_iff (s t : String) : sameLetters s t = true ↔ lower s = lower t := by
  simp only [sameLetters, lower, beq_iff_eq]
  exact ⟨fun h => by rw [h], fun h => by simpa using congrArg String.toList h⟩

end BatchInsert.Text
