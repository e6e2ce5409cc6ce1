import BatchInsert.Proofs.HostText

/-!
# What follows the authority read back

A path is read as its segments, with those of dots resolved; what is left has none, so that it is
read as it is. The marks before the query and the fragment stand in no part before them.
-/

namespace BatchInsert.Proofs

open Url

/-! ### Segments -/

section Segments

variable {special : Bool}

end Segments

/-! ### Paths -/

/-- A path in its normal form; it is empty or starts with a slash. -/
structure IsPath (special : Bool) (path : List Char) : Prop where
  read : readPath special path = path
  encoded : Encoded .path path
  head : path = [] ∨ path.head? = some '/'

section Paths

variable {special : Bool}

end Paths

/-! ### Queries and fragments -/

lemma mem_optional {mark c : Char} {part? : Option (List Char)} (hc : c ∈ optional mark part?) :
    c = mark ∨ ∃ cs, part? = some cs ∧ c ∈ cs := by
  cases part? with
  | none => cases hc
  | some cs => exact (List.mem_cons.mp hc).imp_right fun hc => ⟨cs, rfl, hc⟩

end BatchInsert.Proofs
