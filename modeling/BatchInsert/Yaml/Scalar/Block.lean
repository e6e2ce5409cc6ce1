import BatchInsert.Yaml.Cursor

/-!
# Block scalars

The indented lines after `|` or `>`. A literal scalar keeps its line breaks; in a folded one a
break between two lines that begin with no blank becomes a space. The breaks at the end are dropped,
reduced to one or kept.
-/

namespace BatchInsert.Yaml.Block

inductive Chomping
  | strip
  | clip
  | keep
deriving DecidableEq

structure Header where
  chomping : Chomping
  /-- The indentation relative to that of the surrounding collection, if given. -/
  increment : Option Nat

def chomping? : Option Char → Option Chomping
  | some '+' => some .keep
  | some '-' => some .strip
  | _ => none

/-- An optional digit for the indentation. -/
def increment (start : Mark) (cur : Cursor) : Except Fault (Option Nat × Cursor) :=
  match cur.head.bind (Text.digitValue? 10) with
  | none => .ok (none, cur)
  | some 0 => .error (cur.fail .zeroIndentation .blockScalar start)
  | some n => .ok (some n, cur.skip)

/-- The indicators after `|` or `>`, in either order. -/
def header (start : Mark) (cur : Cursor) : Except Fault (Header × Cursor) := do
  match chomping? cur.head with
  | some c =>
    let (n, cur) ← increment start cur.skip
    return (⟨c, n⟩, cur)
  | none =>
    let (n, cur) ← increment start cur
    match n, chomping? cur.head with
    | some n, some c => return (⟨c, some n⟩, cur.skip)
    | n, _ => return (⟨.clip, n⟩, cur)

/-- Past the rest of the line, which holds at most a comment. -/
def lineEnd (start : Mark) (activity : Activity) (cur : Cursor) : Except Fault Cursor :=
  let cur := cur.skipBlanks.skipComment
  if endsLine cur.head then .ok cur.skipLine else .error (cur.fail .noLineEnd activity start)

/-- Line breaks and the spaces in front of them, up to a line of text. Returns the breaks and the
greatest column reached. -/
def breaks (start : Mark) (indentation : Option Nat) :
    Nat → List Char → Nat → Cursor → Except Fault (List Char × Nat × Cursor)
  | 0, text, widest, cur => .ok (text, widest, cur)
  | fuel + 1, text, widest, cur =>
    let spaces := (cur.rest.takeWhile (· == ' ')).length
    let cur := match indentation with
      | none => cur.skipMany spaces
      | some n => cur.skipMany (min spaces (n - cur.mark.column))
    let widest := max widest cur.mark.column
    let short := (indentation.map fun n => decide (cur.mark.column < n)).getD true
    if short && cur.isAt '\t' then .error (cur.fail .tabForIndentation .blockScalar start)
    else if (cur.head.map isBreak).getD false then
      breaks start indentation fuel (text ++ cur.lineBreak.1) widest cur.skipLine
    else .ok (text, widest, cur)

/-- What has been read of a scalar, up to the start of a line. -/
structure Lines where
  text : List Char
  /-- The break at the end of the last line. -/
  lineBreak : List Char
  /-- The breaks of empty lines after it. -/
  empty : List Char
  /-- Whether the last line began with a blank. -/
  indented : Bool

namespace Lines

/-- The lines with a further one. -/
def add (literal : Bool) (l : Lines) (line breakText empty : List Char) : Lines :=
  let indented := (line.head?.map isBlank).getD false
  let joint :=
    if !literal && l.lineBreak == ['\n'] && !l.indented && !indented then
      if l.empty.isEmpty then [' '] else []
    else l.lineBreak
  ⟨l.text ++ joint ++ l.empty ++ line, breakText, empty, indented⟩

def chomped (c : Chomping) (l : Lines) : List Char :=
  match c with
  | .strip => l.text
  | .clip => l.text ++ l.lineBreak
  | .keep => l.text ++ l.lineBreak ++ l.empty

end Lines

def readLines (literal : Bool) (start : Mark) (indentation : Nat) :
    Nat → Lines → Cursor → Except Fault (Lines × Cursor)
  | 0, l, cur => .ok (l, cur)
  | fuel + 1, l, cur => do
    if cur.mark.column ≠ indentation ∨ cur.head.isNone then return (l, cur)
    let (line, cur) := cur.span (!isBreak ·)
    let (breakText, cur) := cur.lineBreak
    let (empty, _, cur) ← breaks start (some indentation) (cur.rest.length + 1) [] 0 cur
    readLines literal start indentation fuel (l.add literal line breakText empty) cur

/-- The scalar whose indicator is at the cursor, in a collection at column `parent`, if any. -/
def scalar (literal : Bool) (parent : Option Nat) (cur : Cursor) :
    Except Fault (List Char × Cursor) := do
  let start := cur.mark
  let (h, cur) ← header start cur.skip
  let cur ← lineEnd start .blockScalar cur
  let given := h.increment.map (parent.getD 0 + ·)
  let (empty, widest, cur) ← breaks start given (cur.rest.length + 1) [] 0 cur
  let least := max 1 ((parent.map (· + 1)).getD 0)
  let indentation := given.getD (max widest least)
  let (l, cur) ←
    readLines literal start indentation (cur.rest.length + 1) ⟨[], [], empty, false⟩ cur
  return (l.chomped h.chomping, cur)

end BatchInsert.Yaml.Block
