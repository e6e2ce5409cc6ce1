import BatchInsert.Sql.Tag

/-!
# Log

What a writer and its drivers report while they work. The text of an event is fixed; what varies is
in its fields. Opening and closing a writer are spans, in which an event says so.
-/

namespace BatchInsert.Log

inductive Level
  | warn
  | info
  | debug
deriving DecidableEq, Repr

def Level.name : Level → String
  | warn => "WARN"
  | info => "INFO"
  | debug => "DEBUG"

inductive Event
  /-- A field bound as it is under a tag that has no kind of values, or beyond the tags. -/
  | untyped (position : Nat) (tag : Option Sql.Tag) (value : Value)
  /-- A field bound as it is because no tags were declared. -/
  | undeclared (position : Nat) (value : Value)
  | arityDiffers (declared fields : Nat)
  | noUsername
  | noPassword
  | opened (url : String) (batchSize : Nat)
  | connectionLeft (error : String)
  | flushed (records : Nat)
  | finalFlushed (records : Nat)
  | finalFailed (error : String) (records : Nat)
  | statementNotClosed (error : String)
  | connectionNotClosed (error : String)
  | closed (executed lost batches : Nat)
  | dropped (records : Nat)
  | prepared (database : String) (params : Nat)
  | terminated (error : String)

namespace Event

def level : Event → Level
  | untyped _ _ _ | undeclared _ _ | arityDiffers _ _ | connectionLeft _ | finalFailed _ _
  | statementNotClosed _ | connectionNotClosed _ | dropped _ | terminated _ => .warn
  | noUsername | noPassword | opened _ _ | closed _ _ _ => .info
  | flushed _ | finalFlushed _ | prepared _ _ => .debug

def message : Event → String
  | untyped _ _ _ => "Unmanaged SQL type, binding field without type information"
  | undeclared _ _ => "No column types configured, binding field without type information"
  | arityDiffers _ _ => "Column types and record arity differ"
  | noUsername => "Username was not supplied"
  | noPassword => "Password was not supplied"
  | opened _ _ => "Batch writer opened"
  | connectionLeft _ => "Failed to close connection after prepare failure"
  | flushed _ => "Batch flushed"
  | finalFlushed _ => "Final batch flushed"
  | finalFailed _ _ => "Final batch failed"
  | statementNotClosed _ => "Failed to close statement"
  | connectionNotClosed _ => "Failed to close connection"
  | closed _ _ _ => "Batch writer closed"
  | dropped _ => "Batch writer dropped without close, pending records are lost"
  | prepared database _ => "Prepared " ++ database ++ " statement"
  | terminated _ => "PostgreSQL connection terminated with error"

def fields : Event → List (String × String)
  | untyped position tag value =>
    [("column", Text.decimal position), ("sql_type", (tag.map Sql.Tag.text).getD "undeclared"),
      ("value", value.text)]
  | undeclared position value => [("position", Text.decimal position), ("value", value.text)]
  | arityDiffers declared fields =>
    [("declared", Text.decimal declared), ("fields", Text.decimal fields)]
  | noUsername | noPassword => []
  | opened url batchSize => [("url", url), ("batch_size", Text.decimal batchSize)]
  | connectionLeft error | statementNotClosed error | connectionNotClosed error
  | terminated error => [("error", error)]
  | flushed records | finalFlushed records | dropped records =>
    [("records", Text.decimal records)]
  | finalFailed error records => [("error", error), ("records", Text.decimal records)]
  | closed executed lost batches =>
    [("records_flushed", Text.decimal executed), ("records_failed", Text.decimal lost),
      ("batches", Text.decimal batches)]
  | prepared _ params => [("params", Text.decimal params)]

end Event

structure Span where
  name : String
  fields : List (String × String)
deriving DecidableEq

structure Entry where
  event : Event
  span : Option Span

/-- An event outside any span. -/
def plain (e : Event) : Entry := ⟨e, none⟩

/-- The entries of a span; entries that are in one already stay there. -/
def within (span : Span) (entries : List Entry) : List Entry :=
  entries.map fun e => { e with span := e.span.or (some span) }

end BatchInsert.Log
