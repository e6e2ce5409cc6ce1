import BatchInsert.Value.Reader

/-!
# Records

The fields of one row in the order of the placeholders: placeholder `n`, counted from one, takes
field `n - 1`.
-/

namespace BatchInsert

structure Record where
  fields : List Value

namespace Record

def empty : Record := ⟨[]⟩

def arity (r : Record) : Nat := r.fields.length

def isEmpty (r : Record) : Bool := r.fields.isEmpty

def get? (r : Record) (index : Nat) : Option Value := r.fields[index]?

/-- Equality field by field, as values compare. -/
def sameValue (r s : Record) : Bool :=
  r.fields.length == s.fields.length &&
    (r.fields.zip s.fields).all fun (v, w) => v.sameValue w

/-- A record in compact JSON, an array of its fields. -/
def jsonChars (r : Record) : List Char := Json.arrayChars (r.fields.map Value.jsonChars)

def jsonText (r : Record) : String := String.ofList r.jsonChars

/-- A record at the cursor. -/
def read (depth : Json.Depth) (cur : Json.Cursor) :
    Except Json.ReadError (Record × Json.Cursor) := do
  let (fields, cur) ← cur.sequence depth Value.read
  return (⟨fields⟩, cur)

def ofText (s : String) : Except Json.ReadError Record := Json.readWith read s

end Record

end BatchInsert
