import BatchInsert.Database.Backend
import BatchInsert.Failure

/-!
# Plans

What a writer is told to do: with which driver to connect where, which statement to execute, and how
many records make a batch. A draft is a plan in the making, any part of which may be missing.
-/

namespace BatchInsert

open Database (Credentials Target)
open Text (Inspect.option Inspect.list Inspect.record)

/-- The size of a batch when none is given. -/
def defaultBatchSize : Nat := 5000

structure Plan where
  driver : String
  url : String
  credentials : Option Credentials
  statement : String
  batchSize : Nat
  /-- The type of each placeholder. -/
  columnTypes : Option (List Sql.Tag)
  batchSize_pos : 0 < batchSize
deriving DecidableEq

def inspectTypes (types : Option (List Sql.Tag)) : String :=
  Inspect.option (Inspect.list Sql.Tag.inspect) types

namespace Plan

def target (p : Plan) : Target := ⟨p.url, p.credentials⟩

/-- The number of declared types. -/
def columnCount (p : Plan) : Option Nat := p.columnTypes.map List.length

def inspect [Url.Names] (p : Plan) : String :=
  Inspect.record "SinkConfig"
    [("driver", Text.quoted p.driver), ("url", Text.quoted (redact p.url)),
      ("credentials", Inspect.option Credentials.inspect p.credentials),
      ("insert_statement", Text.quoted p.statement), ("batch_size", Text.decimal p.batchSize),
      ("column_types", inspectTypes p.columnTypes)] true

end Plan

structure Draft where
  driver : Option String
  url : Option String
  username : Option String
  password : Option String
  statement : Option String
  batchSize : Option Nat
  columnTypes : Option (List Sql.Tag)
deriving DecidableEq

namespace Draft

def empty : Draft := ⟨none, none, none, none, none, none, none⟩

/-- The first thing that keeps a draft from being a plan. -/
inductive Problem
  | noUrl
  | noStatement
  | noDriver
  | emptyBatch
deriving DecidableEq

def Problem.message : Problem → String
  | noUrl => "No database URL supplied"
  | noStatement => "No insert statement supplied"
  | noDriver => "No driver supplied"
  | emptyBatch => "Batch size must be at least 1"

/-- A text that is there and not blank. -/
def required (part : Option String) (problem : Problem) : Except Problem String :=
  match part with
  | some s => if Text.isBlankText s then .error problem else .ok s
  | none => .error problem

/-- A user with no password has the empty one; a password without a user counts for nothing. -/
def credentials (d : Draft) : Option Credentials :=
  d.username.map fun username => ⟨username, d.password.getD ""⟩

def finish (d : Draft) : Except Problem Plan := do
  let url ← required d.url .noUrl
  let statement ← required d.statement .noStatement
  let driver ← required d.driver .noDriver
  let size := d.batchSize.getD defaultBatchSize
  if h : 0 < size then
    return ⟨driver, url, d.credentials, statement, size, d.columnTypes, h⟩
  else throw .emptyBatch

/-- What is logged of a draft that makes a plan. -/
def notices (d : Draft) : List Log.Event :=
  (if d.username.isNone then [.noUsername] else []) ++
    (if d.password.isNone then [.noPassword] else [])

def inspect [Url.Names] (d : Draft) : String :=
  Inspect.record "SinkBuilder"
    [("driver", Inspect.option Text.quoted d.driver),
      ("url", Inspect.option Text.quoted (d.url.map redact)),
      ("username", Inspect.option Text.quoted d.username),
      ("password", Inspect.option Text.quoted (d.password.map fun _ => "***")),
      ("insert_statement", Inspect.option Text.quoted d.statement),
      ("batch_size", Inspect.option Text.decimal d.batchSize),
      ("column_types", inspectTypes d.columnTypes)] false

end Draft

end BatchInsert
