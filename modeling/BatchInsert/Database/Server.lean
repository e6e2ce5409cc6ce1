import BatchInsert.Database.Error
import BatchInsert.Stats

/-!
# Servers

A database server as its client library presents it. Logging in begins a session; statements are
prepared and executed in a session and known by their SQL.
-/

namespace BatchInsert.Database

/-- What went wrong at a server or on the way to it, with the texts of its causes. -/
structure Fault where
  text : String
  causes : List String
deriving DecidableEq

namespace Fault

def chain (f : Fault) : List String := f.text :: f.causes

/-- The error of a call with a statement. -/
def rejected (sql : String) (f : Fault) : Error := .rejected sql f.text f.causes

/-- The error of a connection that could not be made. -/
def unconnected (f : Fault) : Error := .connection "failed to connect" f.chain

end Fault

/-- A server with a state `σ`, which is told options `ο` to log in, describes a prepared statement
by `π`, and is sent arguments `α`. -/
structure Server (σ ο π α : Type) where
  login : ο → σ → Except Fault Nat × σ
  prepare : Nat → String → σ → Except Fault π × σ
  /-- The number of rows affected. -/
  execute : Nat → String → List α → σ → Except Fault Nat × σ
  discard : Nat → String → σ → Except Fault Unit × σ
  logout : Nat → σ → Except Fault Unit × σ
  /-- How long executing a statement for a number of rows would take. -/
  executionTime : Nat → String → Nat → σ → Duration

/-- A server that cannot be reached, for the reason `f`. -/
def Server.unreachable (ο π α : Type) (f : Fault) : Server Unit ο π α where
  login _ s := (.error f, s)
  prepare _ _ s := (.error f, s)
  execute _ _ _ s := (.error f, s)
  discard _ _ s := (.error f, s)
  logout _ s := (.error f, s)
  executionTime _ _ _ _ := ⟨0, 0⟩

end BatchInsert.Database
