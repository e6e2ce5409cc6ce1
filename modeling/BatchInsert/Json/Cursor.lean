import BatchInsert.Json.Basic

/-!
# Cursors in a JSON text

What is left of a text, with the line and the bytes of that line before it. A failure stands
either at a place or, until the value around it has been closed, at the cursor where it arose.
-/

namespace BatchInsert.Json

structure Cursor where
  rest : List Char
  line : Nat
  column : Nat
deriving DecidableEq

inductive Cause
  | mismatch (m : Document.Mismatch)
  | eofInList
  | eofInObject
  | eofInString
  | eofInValue
  | expectedColon
  | expectedCommaOrBracket
  | expectedCommaOrBrace
  | expectedIdent
  | expectedValue
  | invalidEscape
  | invalidNumber
  | numberOutOfRange
  | controlCharacter
  | keyNotString
  | loneSurrogate
  | endOfHexEscape
  | trailingComma
  | trailingCharacters
  | recursionLimit
deriving DecidableEq

def Cause.message : Cause → String
  | mismatch m => m.message dialect
  | eofInList => "EOF while parsing a list"
  | eofInObject => "EOF while parsing an object"
  | eofInString => "EOF while parsing a string"
  | eofInValue => "EOF while parsing a value"
  | expectedColon => "expected `:`"
  | expectedCommaOrBracket => "expected `,` or `]`"
  | expectedCommaOrBrace => "expected `,` or `\x7d`"
  | expectedIdent => "expected ident"
  | expectedValue => "expected value"
  | invalidEscape => "invalid escape"
  | invalidNumber => "invalid number"
  | numberOutOfRange => "number out of range"
  | controlCharacter => "control character (\\u0000-\\u001F) found while parsing a string"
  | keyNotString => "key must be a string"
  | loneSurrogate => "lone leading surrogate in hex escape"
  | endOfHexEscape => "unexpected end of hex escape"
  | trailingComma => "trailing comma"
  | trailingCharacters => "trailing characters"
  | recursionLimit => "recursion limit exceeded"

inductive ReadError
  | placed (cause : Cause) (line column : Nat)
  /-- A mismatch that the reader of the enclosing value has still to place. -/
  | floating (m : Document.Mismatch) (standing : Cursor)
deriving DecidableEq

def ReadError.message : ReadError → String
  | placed cause line column =>
    cause.message ++ " at line " ++ Text.decimal line ++ " column " ++ Text.decimal column
  | floating m _ => m.message dialect

namespace Cursor

def start (s : String) : Cursor := ⟨s.toList, 1, 0⟩

/-- The cursor after the character `c`, with `rest` left. -/
def after (cur : Cursor) (c : Char) (rest : List Char) : Cursor :=
  if c == '\n' then ⟨rest, cur.line + 1, 0⟩ else ⟨rest, cur.line, cur.column + c.utf8Size⟩

@[simp] theorem rest_after (cur : Cursor) (c : Char) (rest : List Char) :
    (cur.after c rest).rest = rest := by
  rw [after]
  split <;> rfl

def isBlank (c : Char) : Bool := c == ' ' || c == '\n' || c == '\t' || c == '\r'

/-- Past the characters that satisfy `p`. -/
def skipWhile (p : Char → Bool) (cur : Cursor) : Cursor :=
  match _h : cur.rest with
  | [] => cur
  | c :: cs => if p c then skipWhile p (cur.after c cs) else cur
termination_by cur.rest.length
decreasing_by simp [_h]

def skipBlanks (cur : Cursor) : Cursor := cur.skipWhile isBlank

/-- A failure at the cursor. -/
def fail (cur : Cursor) (cause : Cause) : ReadError := .placed cause cur.line cur.column

/-- A failure at the next byte, if there is one. -/
def failNext (cur : Cursor) (cause : Cause) : ReadError :=
  match cur.rest with
  | [] => .placed cause cur.line cur.column
  | c :: _ =>
    if c == '\n' then .placed cause (cur.line + 1) 0 else .placed cause cur.line (cur.column + 1)

/-- A mismatch at the cursor. -/
def reject (cur : Cursor) (m : Document.Mismatch) : ReadError := cur.fail (.mismatch m)

/-- The cursor `n` bytes on; it may stand inside a character that no one reads any more. -/
def skipBytes (cur : Cursor) : Nat → List Char → Cursor
  | 0, cs => { cur with rest := cs }
  | _, [] => { cur with rest := [] }
  | n + 1, c :: cs =>
    if c.utf8Size ≤ n + 1 then (cur.after c cs).skipBytes (n + 1 - c.utf8Size) cs
    else ⟨cs, cur.line, cur.column + (n + 1)⟩
termination_by _ cs => cs.length

end Cursor

end BatchInsert.Json
