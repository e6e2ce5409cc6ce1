import BatchInsert.Binary.Shortest
import BatchInsert.Text.Quoted

/-!
# Mismatches

What is wrong with a document that is well formed but does not hold what its reader expects.
-/

namespace BatchInsert.Document

/-- A scalar of a document. -/
inductive Scalar
  | null
  | bool (b : Bool)
  | integer (i : Int)
  | real (x : Binary.Binary64)
  | string (s : String)
deriving DecidableEq

/-- What a reader met where it expected something else. -/
inductive Found
  | scalar (s : Scalar)
  /-- An integer of more than 64 bits. -/
  | wideInteger (i : Int)
  | sequence
  | map
  | unitVariant
deriving DecidableEq

inductive Mismatch
  | wrongType (found : Found) (expected : String)
  | wrongValue (found : Found) (expected : String)
  | wrongLength (length : Nat) (expected : String)
  | unknownVariant (name : String) (known : List String)
  | missingField (name : String)
  | duplicateField (name : String)
  /-- A scalar of the right type that its own reader refused. -/
  | refused (reason : String)
deriving DecidableEq

/-- How a kind of document speaks of null and of real numbers. -/
structure Dialect where
  null : String
  real : Binary.Binary64 → String

def Found.text (d : Dialect) : Found → String
  | scalar .null => d.null
  | scalar (.bool b) => "boolean `" ++ (if b then "true" else "false") ++ "`"
  | scalar (.integer i) => "integer `" ++ Text.integer i ++ "`"
  | scalar (.real x) => "floating point `" ++ d.real x ++ "`"
  | scalar (.string s) => "string " ++ Text.quoted s
  | wideInteger i =>
    "integer `" ++ Text.integer i ++ "` as " ++ (if i < 0 then "i128" else "u128")
  | sequence => "sequence"
  | map => "map"
  | unitVariant => "unit variant"

def ticked (s : String) : String := "`" ++ s ++ "`"

def Mismatch.message (d : Dialect) : Mismatch → String
  | wrongType found expected => "invalid type: " ++ found.text d ++ ", expected " ++ expected
  | wrongValue found expected => "invalid value: " ++ found.text d ++ ", expected " ++ expected
  | wrongLength n expected => "invalid length " ++ Text.decimal n ++ ", expected " ++ expected
  | unknownVariant name known =>
    "unknown variant " ++ ticked name ++ ", expected one of " ++
      String.intercalate ", " (known.map ticked)
  | missingField name => "missing field " ++ ticked name
  | duplicateField name => "duplicate field " ++ ticked name
  | refused reason => reason

end BatchInsert.Document
