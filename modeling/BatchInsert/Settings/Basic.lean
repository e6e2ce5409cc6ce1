import BatchInsert.Document.Mismatch
import BatchInsert.Plan
import BatchInsert.Secret
import BatchInsert.Sql.Document

/-!
# Settings

The settings of a writer as a document holds them. Fields may come in any order; `Partial` is what
has been read so far.
-/

namespace BatchInsert

structure Settings where
  driver : String
  url : String
  username : Option String
  password : Option Secret
  statement : String
  batchSize : Nat
  columnTypes : Option (List Sql.Tag)
deriving DecidableEq

namespace Settings

inductive Field
  | driver
  | url
  | username
  | password
  | statement
  | batchSize
  | columnTypes
deriving DecidableEq, Repr

namespace Field

/-- In the order of a list of fields without names. -/
def all : List Field := [driver, url, username, password, statement, batchSize, columnTypes]

def name : Field → String
  | driver => "driver"
  | url => "url"
  | username => "username"
  | password => "password"
  | statement => "insert_statement"
  | batchSize => "batch_size"
  | columnTypes => "column_types"

def ofName? (s : String) : Option Field := all.find? fun f => f.name == s

/-- Whether a document must have the field. -/
def isRequired : Field → Bool
  | driver | url | statement => true
  | _ => false

end Field

/-- A field with what it holds. -/
inductive Item
  | driver (s : String)
  | url (s : String)
  | username (s : Option String)
  | password (s : Option String)
  | statement (s : String)
  | batchSize (n : Nat)
  | columnTypes (types : Option (List Sql.Tag))

structure Partial where
  driver : Option String
  url : Option String
  username : Option (Option String)
  password : Option (Option String)
  statement : Option String
  batchSize : Option Nat
  columnTypes : Option (Option (List Sql.Tag))

namespace Partial

def empty : Partial := ⟨none, none, none, none, none, none, none⟩

def put (p : Partial) : Item → Partial
  | .driver s => { p with driver := some s }
  | .url s => { p with url := some s }
  | .username s => { p with username := some s }
  | .password s => { p with password := some s }
  | .statement s => { p with statement := some s }
  | .batchSize n => { p with batchSize := some n }
  | .columnTypes types => { p with columnTypes := some types }

def has (p : Partial) : Field → Bool
  | .driver => p.driver.isSome
  | .url => p.url.isSome
  | .username => p.username.isSome
  | .password => p.password.isSome
  | .statement => p.statement.isSome
  | .batchSize => p.batchSize.isSome
  | .columnTypes => p.columnTypes.isSome

def require (f : Field) (value : Option String) : Except Document.Mismatch String :=
  match value with
  | some s => .ok s
  | none => .error (.missingField f.name)

/-- The settings, with defaults for fields that may be left out. -/
def complete (p : Partial) : Except Document.Mismatch Settings := do
  let driver ← require .driver p.driver
  let url ← require .url p.url
  let statement ← require .statement p.statement
  return ⟨driver, url, p.username.getD none, (p.password.getD none).map Secret.mk, statement,
    p.batchSize.getD defaultBatchSize, p.columnTypes.getD none⟩

end Partial

/-- What a reader of settings expects. -/
def expectation : String := "struct SinkSettings"

/-- What a reader of settings expects in a list of fields. -/
def listExpectation : String := "struct SinkSettings with 7 elements"

/-- The largest size of a batch is that of a word of 64 bits. -/
def sizeOfInteger (i : Int) : Except Document.Mismatch Nat :=
  if 0 ≤ i ∧ i < 2 ^ 64 then .ok i.toNat
  else .error (.wrongValue (.scalar (.integer i)) "usize")

/-- What is wrong with settings that could be read, one line for each field at fault. -/
def violations (s : Settings) : List String :=
  let length (f : Field) (t : String) : List String :=
    if t.isEmpty then
      [f.name ++
        ": Validation error: length [\x7b\"min\": Number(1), \"value\": String(\"\")\x7d]"]
    else []
  let range : List String :=
    if s.batchSize = 0 then
      [Field.batchSize.name ++
        ": Validation error: range [\x7b\"min\": Number(1), \"value\": Number(0)\x7d]"]
    else []
  range ++ length .driver s.driver ++ length .statement s.statement ++ length .url s.url

/-- Why there are no settings. -/
inductive Problem
  | unreadable (path reason : String)
  | unparsable (reason : String)
  | invalid (violations : List String)
deriving DecidableEq

def Problem.message : Problem → String
  | unreadable path reason => "Failed to read settings file " ++ path ++ ": " ++ reason
  | unparsable reason => "Failed to parse settings: " ++ reason
  | invalid violations => "Invalid settings: " ++ String.intercalate "\n" violations

def check (s : Settings) : Except Problem Settings :=
  match s.violations with
  | [] => .ok s
  | v :: vs => .error (.invalid (v :: vs))

def draft (s : Settings) : Draft where
  driver := some s.driver
  url := some s.url
  username := s.username
  password := s.password.map Secret.exposed
  statement := some s.statement
  batchSize := some s.batchSize
  columnTypes := s.columnTypes

def inspect (s : Settings) : String :=
  Text.Inspect.record "SinkSettings"
    [("driver", Text.quoted s.driver), ("url", Text.quoted s.url),
      ("username", Text.Inspect.option Text.quoted s.username),
      ("password", Text.Inspect.option Secret.text s.password),
      ("insert_statement", Text.quoted s.statement),
      ("batch_size", Text.decimal s.batchSize),
      ("column_types", inspectTypes s.columnTypes)] true

def optionChars {α : Type} (chars : α → List Char) : Option α → List Char
  | none => Json.chars .null
  | some a => chars a

/-- Settings in compact JSON, the password covered. -/
def jsonChars (s : Settings) : List Char :=
  Json.objectChars
    [(Field.driver.name, Json.stringChars s.driver), (Field.url.name, Json.stringChars s.url),
      (Field.username.name, optionChars Json.stringChars s.username),
      (Field.password.name, optionChars (fun p => Json.stringChars p.cover) s.password),
      (Field.statement.name, Json.stringChars s.statement),
      (Field.batchSize.name, Text.decimalChars s.batchSize),
      (Field.columnTypes.name,
        optionChars (fun types => Json.arrayChars (types.map Sql.Tag.jsonChars)) s.columnTypes)]

def jsonText (s : Settings) : String := String.ofList s.jsonChars

end Settings

end BatchInsert
