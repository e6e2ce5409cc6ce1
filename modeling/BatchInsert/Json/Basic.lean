import BatchInsert.Binary.Shortest
import BatchInsert.Document.Mismatch
import BatchInsert.Ordered

/-!
# JSON values

Integers of 64 bits are kept apart from real numbers. Members of an object are in ascending order
of their names, each name once.
-/

namespace BatchInsert

inductive Json.Number
  /-- An integer from -2 ^ 63 to 2 ^ 64 - 1. -/
  | integer (i : Int)
  | real (x : Binary.Binary64)
deriving DecidableEq

inductive Json
  | null
  | bool (b : Bool)
  | number (n : Json.Number)
  | string (s : String)
  | array (items : List Json)
  | object (members : List (String × Json))

namespace Json

def Number.sameValue : Number → Number → Bool
  | integer i, integer j => i == j
  | real x, real y => x.sameValue y
  | _, _ => false

mutual

/-- Equality in which zeros of either sign are equal and an integer never equals a real. -/
def sameValue : Json → Json → Bool
  | null, null => true
  | bool a, bool b => a == b
  | number m, number n => m.sameValue n
  | string s, string t => s == t
  | array xs, array ys => sameItems xs ys
  | object xs, object ys => sameMembers xs ys
  | _, _ => false

def sameItems : List Json → List Json → Bool
  | [], [] => true
  | x :: xs, y :: ys => sameValue x y && sameItems xs ys
  | _, _ => false

def sameMembers : List (String × Json) → List (String × Json) → Bool
  | [], [] => true
  | (j, x) :: xs, (k, y) :: ys => j == k && sameValue x y && sameMembers xs ys
  | _, _ => false

end

/-- The member of an object called `name`. -/
def member? (name : String) : Json → Option Json
  | object members => Ordered.find? name members
  | _ => none

/-- What a reader finds that expected another value here. -/
def found : Json → Document.Found
  | null => .scalar .null
  | bool b => .scalar (.bool b)
  | number (.integer i) => .scalar (.integer i)
  | number (.real x) => .scalar (.real x)
  | string s => .scalar (.string s)
  | array _ => .sequence
  | object _ => .map

/-- Reals of 64 bits have no power of ten from a hundred thousandth up to 16 digits. -/
def style64 : Binary.Style := ⟨fun e => -5 ≤ e && e ≤ 15, true, "null", "null"⟩

/-- Reals of 32 bits have no power of ten from a millionth up to 13 digits. -/
def style32 : Binary.Style := ⟨fun e => -6 ≤ e && e ≤ 12, true, "null", "null"⟩

/-- A number that is not finite is written as null. -/
def realText {f : Binary.Format} (style : Binary.Style) (x : Binary.Number f) : String :=
  if x.isFinite then x.text style else "null"

def dialect : Document.Dialect := ⟨"null", realText style64⟩

end Json

end BatchInsert
