import BatchInsert.Log
import BatchInsert.Sql.Param
import BatchInsert.Stats
import BatchInsert.Text.Inspect
import BatchInsert.Url

/-!
# Database backends

What a writer needs of a database, over a world `ω` that connections and statements share. A
connection prepares statements. A statement takes the parameters of a row one by one, moves the row
into its batch, and executes the batch. Every call leaves a state behind, whether it fails or not.
-/

namespace BatchInsert.Database

structure Credentials where
  username : String
  /-- May be empty. -/
  password : String
deriving DecidableEq

/-- The credentials with the password covered. -/
def Credentials.inspect (c : Credentials) : String :=
  Text.Inspect.record "Credentials"
    [("username", Text.quoted c.username), ("password", Text.quoted "***")] true

/-- Where to connect to, and as whom. -/
structure Target where
  url : String
  credentials : Option Credentials
deriving DecidableEq

def Target.inspect [Url.Names] (t : Target) : String :=
  Text.Inspect.record "ConnectionConfig"
    [("url", Text.quoted (redact t.url)),
      ("credentials", Text.Inspect.option Credentials.inspect t.credentials)] true

/-- What a call answers, the state after it, and what it logs. -/
structure Reply (ε σ α : Type) where
  result : Except ε α
  state : σ
  log : List Log.Entry

namespace Reply

variable {ε ε' σ σ' α : Type}

def ok (a : α) (s : σ) : Reply ε σ α := ⟨.ok a, s, []⟩

def fail (e : ε) (s : σ) : Reply ε σ α := ⟨.error e, s, []⟩

def mapError (f : ε → ε') (r : Reply ε σ α) : Reply ε' σ α := ⟨r.result.mapError f, r.state, r.log⟩

def mapState (f : σ → σ') (r : Reply ε σ α) : Reply ε σ' α := ⟨r.result, f r.state, r.log⟩

/-- The reply with `entries` logged before. -/
def after (entries : List Log.Entry) (r : Reply ε σ α) : Reply ε σ α :=
  ⟨r.result, r.state, entries ++ r.log⟩

end Reply

/-- The calls that a driver, a connection or a statement answers and that may fail. -/
inductive Call
  | connect
  | prepare
  | bind
  | addBatch
  | executeBatch
  | closeStatement
  | closeConnection
deriving DecidableEq, Repr

/-- The way to a connection. -/
structure Driver (ω κ : Type) where
  name : String
  connect : Target → ω → Reply Error ω κ

/-- The calls on connections `κ` and statements `τ`. Positions count from one. -/
structure Backend (ω κ τ : Type) where
  prepare : String → κ → ω → Reply Error ω τ
  closeConnection : κ → ω → Reply Error (κ × ω) Unit
  bind : Nat → Sql.Param → τ → ω → Reply Error (τ × ω) Unit
  /-- Moves the bound row into the batch. -/
  addBatch : τ → ω → Reply Error (τ × ω) Unit
  /-- Leaves the batch empty whatever comes of it, and counts the rows that each of its rows
  affected. -/
  executeBatch : τ → ω → Reply Error (τ × ω) (List Nat)
  closeStatement : τ → ω → Reply Error (τ × ω) Unit
  batchLength : τ → Nat
  sql : τ → String
  /-- How long executing the batch would take. -/
  executionTime : τ → ω → Duration

end BatchInsert.Database
