import BatchInsert.Json.Reader
import BatchInsert.Value.Document

/-!
# Reading values from a JSON text

The same form as in a document, with failures placed in the text.
-/

namespace BatchInsert.Value

open Document (Mismatch)
open Json (Cursor ReadError Depth Lexeme)

/-- A result of reading a scalar, a mismatch placed behind it. -/
def settle {α : Type} (cur : Cursor) : Except Mismatch α → Except ReadError (α × Cursor)
  | .ok a => .ok (a, cur)
  | .error m => .error (cur.reject m)

def readByte (cur : Cursor) : Except ReadError (UInt8 × Cursor) := do
  let (lexeme, cur) ← cur.lexeme
  match lexeme with
  | .scalar s => settle cur (ofByte s)
  | other => throw (cur.reject (.wrongType other.found "u8"))

/-- A decimal at the bracket of an array or an object; the bracket counts as read. -/
def rejectBracket (depth : Depth) (found : Document.Found)
    (close : Cursor → Cursor × Option Json.Cause) (cur : Cursor) :
    Except ReadError (Value × Cursor) := do
  let _ ← cur.descend depth
  let next := cur.skip
  Cursor.finish close (.error (.floating (.wrongType found Kind.decimal.expectation) next))

/-- The payload of a value. -/
def readPayload (k : Kind) (depth : Depth) (cur : Cursor) : Except ReadError (Value × Cursor) := do
  if k == .json then
    let (j, cur) ← cur.value depth
    return (.json j, cur)
  let (lexeme, cur) ← cur.lexeme
  match lexeme, k with
  | .scalar s, _ => settle cur (ofScalar k s)
  | .array, .bytes =>
    let (bs, cur) ← cur.array depth fun _ => readByte
    return (.bytes bs, cur)
  | .array, .decimal => rejectBracket depth .sequence Cursor.closeArray cur
  | .object, .decimal => rejectBracket depth .map Cursor.closeObject cur
  | other, _ => throw (cur.reject (.wrongType other.found k.expectation))

/-- The name of a kind. -/
def readLabel (cur : Cursor) : Except ReadError (Kind × Cursor) := do
  let (lexeme, cur) ← cur.lexeme
  match lexeme with
  | .scalar (.string s) => settle cur (kindOfLabel s)
  | other => throw (cur.reject (.wrongType other.found "variant identifier"))

def read (depth : Depth) (cur : Cursor) : Except ReadError (Value × Cursor) := do
  let cur := cur.skipBlanks
  match cur.rest with
  | [] => throw (cur.failNext .eofInValue)
  | c :: _ =>
    if c == '"' then
      let (k, cur) ← readLabel cur
      if k == .null then return (.null, cur)
      throw (.floating (.wrongType .unitVariant "newtype variant") cur)
    else if c == '\x7b' then
      let depth ← cur.descend depth
      let (k, cur) ← readLabel cur.skip
      let (v, cur) ← readPayload k depth (← cur.colon)
      let cur := cur.skipBlanks
      match cur.rest with
      | [] => throw (cur.fail .eofInObject)
      | d :: _ => if d == '\x7d' then return (v, cur.skip) else throw (cur.fail .expectedValue)
    else throw (cur.failNext .expectedValue)

end BatchInsert.Value
