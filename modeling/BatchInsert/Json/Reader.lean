import BatchInsert.Json.Lexeme

/-!
# Reading JSON

Arrays and objects for any reader of their items, whole values, and values that nobody wants. At
most 127 arrays and objects nest. Every reader takes at least one character, so the length of the
text bounds the steps.
-/

namespace BatchInsert.Json

/-- Arrays and objects that may still be opened, the next one included. -/
abbrev Depth := Nat

def Depth.limit : Depth := 128

namespace Cursor

/-- One level deeper, unless the bracket at the cursor is one too many. -/
def descend (cur : Cursor) (depth : Depth) : Except ReadError Depth :=
  if depth ≤ 1 then .error (cur.failNext .recursionLimit) else .ok (depth - 1)

/-- Past the character at the cursor. -/
def skip (cur : Cursor) : Cursor :=
  match cur.rest with
  | [] => cur
  | c :: cs => cur.after c cs

/-- The closing bracket of an array; where the reader stands, and what it met instead. -/
def closeArray (cur : Cursor) : Cursor × Option Cause :=
  let cur := cur.skipBlanks
  match cur.rest with
  | [] => (cur, some .eofInList)
  | ']' :: cs => (cur.after ']' cs, none)
  | ',' :: cs =>
    let cur := (cur.after ',' cs).skipBlanks
    (cur, some (if cur.rest.head? == some ']' then .trailingComma else .trailingCharacters))
  | _ => (cur, some .trailingCharacters)

/-- The closing brace of an object; where the reader stands, and what it met instead. -/
def closeObject (cur : Cursor) : Cursor × Option Cause :=
  let cur := cur.skipBlanks
  match cur.rest with
  | [] => (cur, some .eofInObject)
  | '\x7d' :: cs => (cur.after '\x7d' cs, none)
  | ',' :: _ => (cur, some .trailingComma)
  | _ => (cur, some .trailingCharacters)

/-- A value with its bracket closed, or its failure placed where the closing left the reader. -/
def finish {α : Type} (close : Cursor → Cursor × Option Cause) :
    Except ReadError (α × Cursor) → Except ReadError (α × Cursor)
  | .ok (a, cur) =>
    match close cur with
    | (cur, none) => .ok (a, cur)
    | (cur, some cause) => .error (cur.failNext cause)
  | .error (.floating m cur) => .error ((close cur).1.reject m)
  | .error e => .error e

/-- Whether an array goes on at the cursor, past the comma before all items but the first. -/
def nextItem (first : Bool) (cur : Cursor) : Except ReadError (Bool × Cursor) :=
  let cur := cur.skipBlanks
  match cur.rest with
  | [] => .error (cur.failNext .eofInList)
  | c :: cs =>
    if c == ']' then .ok (false, cur)
    else if first then .ok (true, cur)
    else if c == ',' then
      let cur := (cur.after c cs).skipBlanks
      match cur.rest with
      | [] => .error (cur.failNext .eofInValue)
      | d :: _ => if d == ']' then .error (cur.failNext .trailingComma) else .ok (true, cur)
    else .error (cur.failNext .expectedCommaOrBracket)

/-- Whether an object goes on at the cursor, past the comma before all members but the first. -/
def nextMember (first : Bool) (cur : Cursor) : Except ReadError (Bool × Cursor) :=
  let cur := cur.skipBlanks
  match cur.rest with
  | [] => .error (cur.failNext .eofInObject)
  | c :: cs =>
    if c == '\x7d' then .ok (false, cur)
    else if first then
      if c == '"' then .ok (true, cur) else .error (cur.failNext .keyNotString)
    else if c == ',' then
      let cur := (cur.after c cs).skipBlanks
      match cur.rest with
      | [] => .error (cur.failNext .eofInValue)
      | d :: _ =>
        if d == '"' then .ok (true, cur)
        else if d == '\x7d' then .error (cur.failNext .trailingComma)
        else .error (cur.failNext .keyNotString)
    else .error (cur.failNext .expectedCommaOrBrace)

/-- The colon after a name. -/
def colon (cur : Cursor) : Except ReadError Cursor :=
  let cur := cur.skipBlanks
  match cur.rest with
  | [] => .error (cur.failNext .eofInObject)
  | c :: cs => if c == ':' then .ok (cur.after c cs) else .error (cur.failNext .expectedColon)

/-- The items of an array up to its bracket. -/
def items {α : Type} (item : Cursor → Except ReadError (α × Cursor)) :
    Nat → Bool → Cursor → Except ReadError (List α × Cursor)
  | 0, _, cur => .error (cur.failNext .eofInList)
  | fuel + 1, first, cur => do
    let (more, cur) ← cur.nextItem first
    if more then
      let (a, cur) ← item cur
      let (as, cur) ← items item fuel false cur
      return (a :: as, cur)
    else return ([], cur)

/-- An array at its opening bracket. -/
def array {α : Type} (depth : Depth) (item : Depth → Cursor → Except ReadError (α × Cursor))
    (cur : Cursor) : Except ReadError (List α × Cursor) := do
  let depth ← cur.descend depth
  finish closeArray (items (item depth) (cur.rest.length + 1) true cur.skip)

/-- An array where nothing else may stand. -/
def sequence {α : Type} (depth : Depth) (item : Depth → Cursor → Except ReadError (α × Cursor))
    (cur : Cursor) : Except ReadError (List α × Cursor) := do
  let (lexeme, cur) ← cur.lexeme
  match lexeme with
  | .array => cur.array depth item
  | other => throw (cur.reject (.wrongType other.found "a sequence"))

mutual

/-- Any value. -/
def valueFrom : Nat → Depth → Cursor → Except ReadError (Json × Cursor)
  | 0, _, cur => .error (cur.failNext .eofInValue)
  | fuel + 1, depth, cur => do
    let (lexeme, cur) ← cur.lexeme
    match lexeme with
    | .scalar .null => return (.null, cur)
    | .scalar (.bool b) => return (.bool b, cur)
    | .scalar (.integer i) => return (.number (.integer i), cur)
    | .scalar (.real x) => return (.number (.real x), cur)
    | .scalar (.string s) => return (.string s, cur)
    | .array =>
      let depth ← cur.descend depth
      let (xs, cur) ← finish closeArray (itemsFrom fuel depth true cur.skip)
      return (.array xs, cur)
    | .object =>
      let depth ← cur.descend depth
      let (ms, cur) ← finish closeObject (membersFrom fuel depth true [] cur.skip)
      return (.object ms, cur)

def itemsFrom : Nat → Depth → Bool → Cursor → Except ReadError (List Json × Cursor)
  | 0, _, _, cur => .error (cur.failNext .eofInList)
  | fuel + 1, depth, first, cur => do
    let (more, cur) ← cur.nextItem first
    if more then
      let (x, cur) ← valueFrom fuel depth cur
      let (xs, cur) ← itemsFrom fuel depth false cur
      return (x :: xs, cur)
    else return ([], cur)

def membersFrom : Nat → Depth → Bool → List (String × Json) → Cursor →
    Except ReadError (List (String × Json) × Cursor)
  | 0, _, _, _, cur => .error (cur.failNext .eofInObject)
  | fuel + 1, depth, first, acc, cur => do
    let (more, cur) ← cur.nextMember first
    if more then
      let (name, cur) ← cur.skip.string
      let (v, cur) ← valueFrom fuel depth (← cur.colon)
      membersFrom fuel depth false (Ordered.insert name v acc) cur
    else return (acc, cur)

end

def value (depth : Depth) (cur : Cursor) : Except ReadError (Json × Cursor) :=
  valueFrom (2 * cur.rest.length + 2) depth cur

/-- Nothing but blanks may follow a whole text. -/
def atEnd (cur : Cursor) : Except ReadError Unit :=
  let cur := cur.skipBlanks
  if cur.rest.isEmpty then .ok () else .error (cur.failNext .trailingCharacters)

end Cursor

/-- A whole text as read by `reader`. -/
def readWith {α : Type} (reader : Depth → Cursor → Except ReadError (α × Cursor)) (s : String) :
    Except ReadError α := do
  let (a, cur) ← reader Depth.limit (Cursor.start s)
  cur.atEnd
  return a

def ofText (s : String) : Except ReadError Json := readWith Cursor.value s

end BatchInsert.Json
