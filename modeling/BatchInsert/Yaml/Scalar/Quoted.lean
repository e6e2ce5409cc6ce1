import BatchInsert.Yaml.Scalar.Gap

/-!
# Quoted scalars

Between single quotes a quote is written twice and nothing else is special; between double quotes a
backslash begins an escape, and before a line break it removes the break.
-/

namespace BatchInsert.Yaml.Quoted

inductive Mode
  | single
  | double
deriving DecidableEq

def Mode.quote : Mode → Char
  | .single => Char.ofNat 39
  | .double => '"'

inductive Escape
  | char (c : Char)
  /-- So many hexadecimal digits follow. -/
  | code (digits : Nat)

def escape? : Char → Option Escape
  | '0' => some (.char '\x00')
  | 'a' => some (.char '\x07')
  | 'b' => some (.char '\x08')
  | 't' => some (.char '\t')
  | '\t' => some (.char '\t')
  | 'n' => some (.char '\n')
  | 'v' => some (.char '\x0b')
  | 'f' => some (.char '\x0c')
  | 'r' => some (.char '\r')
  | 'e' => some (.char '\x1b')
  | ' ' => some (.char ' ')
  | '"' => some (.char '"')
  | '/' => some (.char '/')
  | '\\' => some (.char '\\')
  | 'N' => some (.char '\u0085')
  | '_' => some (.char '\u00a0')
  | 'L' => some (.char '\u2028')
  | 'P' => some (.char '\u2029')
  | 'x' => some (.code 2)
  | 'u' => some (.code 4)
  | 'U' => some (.code 8)
  | _ => none

/-- The character of an escape whose backslash is at the cursor. -/
def escaped (start : Mark) (cur : Cursor) : Except Fault (Char × Cursor) :=
  match (cur.ahead 1).bind escape? with
  | none => .error (cur.fail .unknownEscape .escape start)
  | some (.char c) => .ok (c, cur.skipMany 2)
  | some (.code digits) =>
    let cur := cur.skipMany 2
    let cs := cur.rest.take digits
    match if cs.length = digits then Text.digitsValue? 16 0 cs else none with
    | none => .error (cur.fail .badHexEscape .escape start)
    | some n =>
      if (0xD800 ≤ n ∧ n ≤ 0xDFFF) ∨ 0x10FFFF < n then
        .error (cur.fail .badCodePoint .escape start)
      else .ok (Char.ofNat n, cur.skipMany digits)

structure Word where
  chars : List Char
  /-- What follows an escaped line break is a gap that leaves no text. -/
  gap : Gap
  cursor : Cursor

/-- The characters up to a blank, a line break or the closing quote. -/
def word (mode : Mode) (start : Mark) : Nat → List Char → Cursor → Except Fault Word
  | 0, text, cur => .ok ⟨text, .empty, cur⟩
  | fuel + 1, text, cur =>
    match cur.head with
    | none => .ok ⟨text, .empty, cur⟩
    | some c =>
      if isBlank c || isBreak c then .ok ⟨text, .empty, cur⟩
      else if mode = .single ∧ c = mode.quote ∧ cur.ahead 1 = some mode.quote then
        word mode start fuel (text ++ [c]) (cur.skipMany 2)
      else if c = mode.quote then .ok ⟨text, .empty, cur⟩
      else if mode = .double ∧ c = '\\' then
        if ((cur.ahead 1).map isBreak).getD false then
          .ok ⟨text, .afterBreak, cur.skip.skipLine⟩
        else do
          let (c, cur) ← escaped start cur
          word mode start fuel (text ++ [c]) cur
      else word mode start fuel (text ++ [c]) cur.skip

/-- The words and gaps from the cursor on, `text` before them. -/
def read (mode : Mode) (start : Mark) : Nat → List Char → Cursor →
    Except Fault (List Char × Cursor)
  | 0, text, cur => .ok (text, cur)
  | fuel + 1, text, cur => do
    if cur.atDocumentIndicator then throw (cur.fail .documentIndicator .quotedScalar start)
    if cur.head.isNone then throw (cur.fail .endOfStream .quotedScalar start)
    let ⟨text, gap, cur⟩ ← word mode start cur.rest.length text cur
    if cur.isAt mode.quote then return (text, cur.skip)
    let (gap, cur) ← gap.scan 0 start cur
    read mode start fuel (text ++ gap.text) cur

/-- The scalar whose opening quote is at the cursor. -/
def scalar (mode : Mode) (cur : Cursor) : Except Fault (List Char × Cursor) :=
  read mode cur.mark (cur.rest.length + 1) [] cur.skip

end BatchInsert.Yaml.Quoted
