import BatchInsert.Sql.Tag

/-!
# Failures of a writer

What can go wrong with a writer, each failure with the driver's error that caused it. A failure does
not repeat the text of its cause.
-/

namespace BatchInsert

open Database (Error)

inductive OpenFailure
  | driver (name : String) (cause : Error)
  | connection (cause : Error)
  | statement (sql : String) (cause : Error)
  | alreadyOpen
  | closed
deriving DecidableEq

inductive WriteFailure
  /-- A value of another kind than its tag takes. -/
  | mismatch (position : Nat) (expected : Sql.Tag) (actual : Value.Kind) (cause : Error)
  | bind (position : Nat) (cause : Error)
  | addBatch (cause : Error)
  | execution (rows : Nat) (cause : Error)
  | notOpen
deriving DecidableEq

/-- A failure while closing, which goes on after it. -/
inductive CloseFailure
  | flush (rows : Nat) (cause : Error)
  | statement (cause : Error)
  | connection (cause : Error)
deriving DecidableEq

inductive Failure
  | configuration (message : String)
  | opening (f : OpenFailure)
  | writing (f : WriteFailure)
deriving DecidableEq

namespace OpenFailure

def cause? : OpenFailure → Option Error
  | driver _ e | connection e | statement _ e => some e
  | alreadyOpen | closed => none

def text : OpenFailure → String
  | driver name _ => "unable to load database driver '" ++ name ++ "'"
  | connection _ => "unable to connect to database"
  | statement sql _ => "unable to prepare statement '" ++ sql ++ "'"
  | alreadyOpen => "writer is already open"
  | closed => "writer has been closed"

end OpenFailure

namespace WriteFailure

def cause? : WriteFailure → Option Error
  | mismatch _ _ _ e | bind _ e | addBatch e | execution _ e => some e
  | notOpen => none

def text : WriteFailure → String
  | mismatch position expected actual _ =>
    "field " ++ Text.decimal position ++ " holds a " ++ actual.name ++
      " value, which cannot be bound as " ++ expected.text
  | bind position _ => "unable to bind parameter " ++ Text.decimal position
  | addBatch _ => "unable to add record to batch"
  | execution rows _ => "execution of a batch of " ++ Text.decimal rows ++ " records failed"
  | notOpen => "writer is not open"

end WriteFailure

namespace CloseFailure

def cause : CloseFailure → Error
  | flush _ e | statement e | connection e => e

def text : CloseFailure → String
  | flush rows _ => "final flush of " ++ Text.decimal rows ++ " records failed"
  | statement _ => "closing the statement failed"
  | connection _ => "closing the connection failed"

/-- The texts of a failure and of everything below it. -/
def chain (f : CloseFailure) : List String := f.text :: f.cause.chain

end CloseFailure

namespace Failure

def cause? : Failure → Option Error
  | configuration _ => none
  | opening f => f.cause?
  | writing f => f.cause?

/-- Whether the same call may succeed when it is made again. -/
def isRetriable (f : Failure) : Bool := f.cause?.any Error.isRetriable

def text : Failure → String
  | configuration message => "configuration error: " ++ message
  | opening f => f.text
  | writing f => f.text

/-- The texts of a failure and of everything below it. -/
def chain (f : Failure) : List String := f.text :: (f.cause?.map Error.chain).getD []

end Failure

end BatchInsert
