import BatchInsert.Yaml.Fault

/-!
# Cursors in a YAML text

What is left of a text, and the mark of its next character.
-/

namespace BatchInsert.Yaml

def isBlank (c : Char) : Bool := c == ' ' || c == '\t'

/-- The separators of lines and of paragraphs stay in a scalar as they are. -/
def isKeptBreak (c : Char) : Bool := c == '\u2028' || c == '\u2029'

def isBreak (c : Char) : Bool := c == '\n' || c == '\r' || c == '\u0085' || isKeptBreak c

/-- A character of a name: a letter, a digit, `-` or `_`. -/
def isWord (c : Char) : Bool := c.isAlphanum || c == '-' || c == '_'

/-- The end of a line or of the text. -/
def endsLine (c? : Option Char) : Bool := (c?.map isBreak).getD true

/-- A blank, or the end of a line or of the text. -/
def endsWord (c? : Option Char) : Bool := (c?.map fun c => isBlank c || isBreak c).getD true

structure Cursor where
  rest : List Char
  mark : Mark
deriving DecidableEq

namespace Cursor

def start (s : String) : Cursor := ⟨s.toList, .start⟩

/-- The character `n` places on. -/
def ahead (cur : Cursor) (n : Nat) : Option Char := cur.rest[n]?

def head (cur : Cursor) : Option Char := cur.ahead 0

def isAt (cur : Cursor) (c : Char) : Bool := cur.head == some c

/-- Past one character that is no line break. -/
def skip (cur : Cursor) : Cursor := ⟨cur.rest.tail, cur.mark.next⟩

def skipMany (cur : Cursor) : Nat → Cursor
  | 0 => cur
  | n + 1 => cur.skip.skipMany n

/-- Past the characters of the line that satisfy `p`, and those characters. -/
def span (p : Char → Bool) (cur : Cursor) : List Char × Cursor :=
  let cs := cur.rest.takeWhile p
  (cs, cur.skipMany cs.length)

def skipWhile (p : Char → Bool) (cur : Cursor) : Cursor := (cur.span p).2

def skipBlanks (cur : Cursor) : Cursor := cur.skipWhile isBlank

/-- Past what is left of the line if that is a comment. -/
def skipComment (cur : Cursor) : Cursor :=
  if cur.isAt '#' then cur.skipWhile (!isBreak ·) else cur

/-- Past a line break, if there is one, and what a scalar holds for it. -/
def lineBreak (cur : Cursor) : List Char × Cursor :=
  match cur.rest with
  | '\r' :: '\n' :: rest => (['\n'], ⟨rest, cur.mark.nextLine 2⟩)
  | c :: rest =>
    if isBreak c then (if isKeptBreak c then [c] else ['\n'], ⟨rest, cur.mark.nextLine 1⟩)
    else ([], cur)
  | [] => ([], cur)

def skipLine (cur : Cursor) : Cursor := cur.lineBreak.2

/-- Whether `---` or `...` stands alone at the start of the line. -/
def atMarker (cur : Cursor) (c : Char) : Bool :=
  cur.mark.column == 0 && cur.rest.take 3 == [c, c, c] && endsWord (cur.ahead 3)

def atDocumentIndicator (cur : Cursor) : Bool := cur.atMarker '-' || cur.atMarker '.'

/-- A fault at the cursor, in the construct that began at `start`. -/
def fail (cur : Cursor) (p : Problem) (activity : Activity) (start : Mark) : Fault :=
  .problem p cur.mark (some ⟨activity, start⟩)

end Cursor

end BatchInsert.Yaml
