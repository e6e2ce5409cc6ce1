import BatchInsert.Json.Reader
import BatchInsert.Sql.Tag

/-!
# Tags in documents

A tag is written as its name, or as its code if it has none. Either form is read.
-/

namespace BatchInsert.Sql.Tag

open Document (Mismatch)
open Json (Cursor ReadError Depth)

def jsonChars (t : Tag) : List Char :=
  match t.name? with
  | some name => Json.stringChars name
  | none => (Text.integer t.code.toInt).toList

/-- The mismatch of everything that is neither a code of 32 bits nor a text. -/
def notTag : Mismatch := .refused "data did not match any variant of untagged enum SqlTypeRepr"

def ofScalar : Document.Scalar → Except Mismatch Tag
  | .integer i =>
    if -2147483648 ≤ i ∧ i ≤ 2147483647 then .ok (ofCode (Int32.ofInt i)) else .error notTag
  | .string s => (ofText s).mapError fun e => .refused e.text
  | _ => .error notTag

def ofJson (j : Json) : Except Mismatch Tag :=
  match j.found with
  | .scalar s => ofScalar s
  | _ => .error notTag

/-- A tag at the cursor. Its mismatches stand nowhere until the list around it is closed. -/
def read (depth : Depth) (cur : Cursor) : Except ReadError (Tag × Cursor) := do
  let (j, cur) ← cur.value depth
  match ofJson j with
  | .ok t => return (t, cur)
  | .error m => throw (.floating m cur)

end BatchInsert.Sql.Tag
