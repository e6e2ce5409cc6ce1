import BatchInsert.Yaml.Cursor

/-!
# Gaps in a flow scalar

The blanks and line breaks between two words of a plain or quoted scalar, and the text that stands
for them: a single break becomes a space, of several the first is dropped.
-/

namespace BatchInsert.Yaml

structure Gap where
  /-- Blanks before the first line break. -/
  blanks : List Char
  /-- The first line break. -/
  first : List Char
  /-- The line breaks after it. -/
  others : List Char
  broken : Bool
deriving DecidableEq

namespace Gap

def empty : Gap := ⟨[], [], [], false⟩

/-- A gap after a line break that leaves no text. -/
def afterBreak : Gap := ⟨[], [], [], true⟩

def folded (first others : List Char) : List Char :=
  if first == ['\n'] then (if others.isEmpty then [' '] else others) else first ++ others

def text (g : Gap) : List Char := if g.broken then folded g.first g.others else g.blanks

def addBlank (g : Gap) (c : Char) : Gap :=
  if g.broken then g else { g with blanks := g.blanks ++ [c] }

def addBreak (g : Gap) (text : List Char) : Gap :=
  if g.broken then { g with others := g.others ++ text } else ⟨[], text, g.others, true⟩

/-- The gap at the cursor; in a line that starts the scalar's text below column `indentation`, a
tab is refused. -/
def read (indentation : Nat) (start : Mark) : Nat → Gap → Cursor → Except Fault (Gap × Cursor)
  | 0, g, cur => .ok (g, cur)
  | fuel + 1, g, cur =>
    match cur.head with
    | none => .ok (g, cur)
    | some c =>
      if isBlank c then
        if g.broken && cur.mark.column < indentation && c == '\t' then
          .error (cur.fail .tabInIndentation .plainScalar start)
        else read indentation start fuel (g.addBlank c) cur.skip
      else if isBreak c then
        read indentation start fuel (g.addBreak cur.lineBreak.1) cur.skipLine
      else .ok (g, cur)

/-- The gap at the cursor after `g`; a gap is no longer than the text. -/
def scan (g : Gap) (indentation : Nat) (start : Mark) (cur : Cursor) :
    Except Fault (Gap × Cursor) :=
  read indentation start cur.rest.length g cur

end Gap

end BatchInsert.Yaml
