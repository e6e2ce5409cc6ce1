import BatchInsert.Environment
import BatchInsert.Json.Skip
import BatchInsert.Settings.Basic

/-!
# Settings in JSON

An object with the fields by name, unknown names being skipped, or an array of the fields in order.
-/

namespace BatchInsert.Settings

open Document (Mismatch)
open Json (Cursor ReadError Depth)

/-- A text, or the mismatch of anything else. -/
def textOf (found : Document.Found) : Except Mismatch String :=
  match found with
  | .scalar (.string s) => .ok s
  | other => .error (.wrongType other "a string")

def sizeOf (found : Document.Found) : Except Mismatch Nat :=
  match found with
  | .scalar (.integer i) => sizeOfInteger i
  | other => .error (.wrongType other "usize")

def optionOf {α : Type} (read : Json → Except Mismatch α) : Json → Except Mismatch (Option α)
  | .null => .ok none
  | j => (read j).map some

def tagsOf : Json → Except Mismatch (List Sql.Tag)
  | .array items => items.mapM Sql.Tag.ofJson
  | j => .error (.wrongType j.found "a sequence")

def itemOf (f : Field) (j : Json) : Except Mismatch Item :=
  match f with
  | .driver => (textOf j.found).map .driver
  | .url => (textOf j.found).map .url
  | .username => (optionOf (fun j => textOf j.found) j).map .username
  | .password => (optionOf (fun j => textOf j.found) j).map .password
  | .statement => (textOf j.found).map .statement
  | .batchSize => (sizeOf j.found).map .batchSize
  | .columnTypes => (optionOf tagsOf j).map .columnTypes

/-- The fields from `index` on in a list of their values, and the values that are left. -/
def listOf (index : Nat) : List Field → Partial → List Json → Except Mismatch (Partial × List Json)
  | [], p, js => .ok (p, js)
  | f :: fs, p, [] =>
    if f.isRequired then .error (.wrongLength index listExpectation)
    else listOf (index + 1) fs p []
  | f :: fs, p, j :: js => do listOf (index + 1) fs (p.put (← itemOf f j)) js

def membersOf (p : Partial) : List (String × Json) → Except Mismatch Partial
  | [] => .ok p
  | (name, j) :: rest =>
    match Field.ofName? name with
    | none => membersOf p rest
    | some f => do membersOf (p.put (← itemOf f j)) rest

/-- Settings from a value, unchecked. -/
def ofJson : Json → Except Mismatch Settings
  | .array items => do
    let (p, rest) ← listOf 0 Field.all .empty items
    if rest.isEmpty then p.complete
    else throw (.wrongLength items.length "fewer elements in array")
  | .object members => do (← membersOf .empty members).complete
  | j => .error (.wrongType j.found expectation)

/-- A scalar where nothing else may stand. -/
def readScalar {α : Type} (accept : Document.Found → Except Mismatch α) (cur : Cursor) :
    Except ReadError (α × Cursor) := do
  let (lexeme, cur) ← cur.lexeme
  match accept lexeme.found with
  | .ok a => return (a, cur)
  | .error m => throw (cur.reject m)

def readOption {α : Type} (read : Cursor → Except ReadError (α × Cursor)) (cur : Cursor) :
    Except ReadError (Option α × Cursor) := do
  let cur := cur.skipBlanks
  if cur.rest.head? == some 'n' then return (none, ← Cursor.literal "null".toList cur)
  let (a, cur) ← read cur
  return (some a, cur)

def mapResult {α β : Type} (f : α → β) (r : Except ReadError (α × Cursor)) :
    Except ReadError (β × Cursor) := r.map fun (a, cur) => (f a, cur)

def readItem (f : Field) (depth : Depth) (cur : Cursor) : Except ReadError (Item × Cursor) :=
  match f with
  | .driver => mapResult .driver (readScalar textOf cur)
  | .url => mapResult .url (readScalar textOf cur)
  | .username => mapResult .username (readOption (readScalar textOf) cur)
  | .password => mapResult .password (readOption (readScalar textOf) cur)
  | .statement => mapResult .statement (readScalar textOf cur)
  | .batchSize => mapResult .batchSize (readScalar sizeOf cur)
  | .columnTypes =>
    mapResult .columnTypes (readOption (fun cur => cur.sequence depth Sql.Tag.read) cur)

/-- The fields from `index` on in an array. -/
def readList (depth : Depth) (index : Nat) (first : Bool) :
    List Field → Partial → Cursor → Except ReadError (Partial × Cursor)
  | [], p, cur => .ok (p, cur)
  | f :: fs, p, cur => do
    let (more, cur) ← cur.nextItem first
    if more then
      let (item, cur) ← readItem f depth cur
      readList depth (index + 1) false fs (p.put item) cur
    else if f.isRequired then throw (.floating (.wrongLength index listExpectation) cur)
    else readList depth (index + 1) first fs p cur

/-- The members of an object; every one takes at least one character. -/
def readMembers (depth : Depth) : Nat → Bool → Partial → Cursor →
    Except ReadError (Partial × Cursor)
  | 0, _, _, cur => .error (cur.failNext .eofInObject)
  | fuel + 1, first, p, cur => do
    let (more, cur) ← cur.nextMember first
    if more then
      let (name, cur) ← cur.skip.string
      match Field.ofName? name with
      | none => readMembers depth fuel false p (← (← cur.colon).skipValue)
      | some f =>
        if p.has f then throw (.floating (.duplicateField f.name) cur)
        let (item, cur) ← readItem f depth (← cur.colon)
        readMembers depth fuel false (p.put item) cur
    else return (p, cur)

/-- The settings that have been read; a field that is missing is so at the cursor. -/
def finishRead (result : Except ReadError (Partial × Cursor)) :
    Except ReadError (Settings × Cursor) := do
  let (p, cur) ← result
  match p.complete with
  | .ok s => return (s, cur)
  | .error m => throw (.floating m cur)

def read (depth : Depth) (cur : Cursor) : Except ReadError (Settings × Cursor) := do
  let (lexeme, cur) ← cur.lexeme
  match lexeme with
  | .array =>
    let depth ← cur.descend depth
    Cursor.finish Cursor.closeArray (finishRead (readList depth 0 true Field.all .empty cur.skip))
  | .object =>
    let depth ← cur.descend depth
    Cursor.finish Cursor.closeObject
      (finishRead (readMembers depth (cur.rest.length + 1) true .empty cur.skip))
  | other => throw (cur.reject (.wrongType other.found expectation))

/-- Settings from a JSON text with its references to the environment replaced. -/
def ofJsonText (env : Environment) (s : String) : Except Problem Settings :=
  match Json.readWith read (env.expand s) with
  | .ok settings => settings.check
  | .error e => .error (.unparsable e.message)

end BatchInsert.Settings
