import BatchInsert.Text.Numeral

/-!
# Environment variables in a text

`$` and a name in braces stand for the value of a variable, or for the default that may follow the
name after `:-`. Inserted text is not looked at again, and a reference that is not whole stays as it
is.
-/

namespace BatchInsert

/-- The texts of the variables that are set to one. -/
abbrev Environment := String → Option String

namespace Environment

structure Reference where
  name : String
  default : Option String
deriving DecidableEq

def startsName (c : Char) : Bool := c.isAlpha || c == '_'

def continuesName (c : Char) : Bool := c.isAlphanum || c == '_'

/-- The default, if any, and what follows the closing brace; `cs` follows the name. -/
def referenceEnd? : List Char → Option (Option String × List Char)
  | '\x7d' :: rest => some (none, rest)
  | ':' :: '-' :: cs =>
    let default := cs.takeWhile (· != '\x7d')
    match cs.dropWhile (· != '\x7d') with
    | [] => none
    | _ :: rest => some (some (String.ofList default), rest)
  | _ => none

/-- The reference at the front of a text, and what follows it. -/
def reference? : List Char → Option (Reference × List Char)
  | '$' :: '\x7b' :: cs =>
    let name := cs.takeWhile continuesName
    if (cs.head?.map startsName).getD false then
      (referenceEnd? (cs.dropWhile continuesName)).map fun (default, rest) =>
        (⟨String.ofList name, default⟩, rest)
    else none
  | _ => none

/-- The text that a reference stands for. -/
def value (env : Environment) (r : Reference) : String := (env r.name).getD (r.default.getD "")

theorem length_dropWhile_le (p : Char → Bool) (cs : List Char) :
    (cs.dropWhile p).length ≤ cs.length := by
  induction cs with
  | nil => simp
  | cons c cs ih =>
    simp only [List.dropWhile_cons]
    split
    · exact Nat.le_succ_of_le ih
    · exact Nat.le_refl _

theorem length_of_referenceEnd? {cs rest : List Char} {d : Option String}
    (h : referenceEnd? cs = some (d, rest)) : rest.length < cs.length := by
  unfold referenceEnd? at h
  split at h
  · simp only [Option.some.injEq, Prod.mk.injEq] at h
    simp [h.2]
  · next tail =>
    have le := length_dropWhile_le (· != '\x7d') tail
    split at h
    · contradiction
    · next heq =>
      rw [heq] at le
      simp only [Option.some.injEq, Prod.mk.injEq] at h
      simp only [List.length_cons, h.2] at le ⊢
      omega
  · contradiction

theorem length_of_reference? {cs rest : List Char} {r : Reference}
    (h : reference? cs = some (r, rest)) : rest.length < cs.length := by
  unfold reference? at h
  split at h
  · next tail =>
    split at h
    · obtain ⟨⟨d, rest'⟩, hEnd, heq⟩ := Option.map_eq_some_iff.mp h
      have lt := length_of_referenceEnd? hEnd
      have le := length_dropWhile_le continuesName tail
      simp only [Prod.mk.injEq] at heq
      rw [heq.2] at lt
      simp only [List.length_cons]
      omega
    · contradiction
  · contradiction

def expandChars (env : Environment) (cs : List Char) : List Char :=
  match _h : reference? cs with
  | some (r, rest) => (value env r).toList ++ expandChars env rest
  | none =>
    match cs with
    | [] => []
    | c :: cs => c :: expandChars env cs
termination_by cs.length
decreasing_by
  · exact length_of_reference? _h
  · simp

/-- A text with its references replaced, from left to right. -/
def expand (env : Environment) (s : String) : String := String.ofList (expandChars env s.toList)

end Environment

end BatchInsert
