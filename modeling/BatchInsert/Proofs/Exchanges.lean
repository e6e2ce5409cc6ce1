import BatchInsert.Proofs.Simulation

/-!
# What a writer asks of its driver

A backend that notes every call it passes on, and how the call ended. Noting changes nothing: a call
of the writer answers, logs and leaves what it does over the backend itself. The notes are what a
call of the writer has asked, in order.
-/

namespace BatchInsert.Proofs

open Database (Backend Call Driver Error Reply)

variable {ω κ τ ι α : Type}

/-- A call and the error that it answered, if it answered one. A call on a connection says on which,
an execution how many rows were in the batch. -/
inductive Exchange (κ : Type)
  | connect (result : Except Error κ)
  | prepare (connection : κ) (error? : Option Error)
  | bind (error? : Option Error)
  | addBatch (error? : Option Error)
  | executeBatch (rows : Nat) (error? : Option Error)
  | closeStatement (error? : Option Error)
  | closeConnection (connection : κ) (error? : Option Error)

def errorOf : Except Error α → Option Error
  | .ok _ => none
  | .error e => some e

namespace Exchange

def call : Exchange κ → Call
  | connect _ => .connect
  | prepare _ _ => .prepare
  | bind _ => .bind
  | addBatch _ => .addBatch
  | executeBatch _ _ => .executeBatch
  | closeStatement _ => .closeStatement
  | closeConnection _ _ => .closeConnection

def error? : Exchange κ → Option Error
  | connect result => errorOf result
  | prepare _ e | bind e | addBatch e | executeBatch _ e | closeStatement e
  | closeConnection _ e => e

/-- The rows of an execution, and its error. -/
def executed? : Exchange κ → Option (Nat × Option Error)
  | executeBatch rows e => some (rows, e)
  | _ => none

/-- The connection that was established. -/
def connected? : Exchange κ → Option κ
  | connect (.ok c) => some c
  | _ => none

/-- The connection that was to be closed. -/
def closed? : Exchange κ → Option κ
  | closeConnection c _ => some c
  | _ => none

end Exchange

/-- A world, and the exchanges in it in their order. -/
structure Watched (ω κ : Type) where
  world : ω
  exchanges : List (Exchange κ)

namespace Watched

def after (w : Watched ω κ) (e : Exchange κ) (world : ω) : Watched ω κ := ⟨world, w.exchanges ++ [e]⟩

/-- The reply of a call on a statement or a connection, noted as `e`. -/
def noted {σ : Type} (w : Watched ω κ) (e : Option Error → Exchange κ)
    (reply : Reply Error (σ × ω) α) : Reply Error (σ × Watched ω κ) α :=
  reply.mapState (Prod.map id (w.after (e (errorOf reply.result))))

def driver (d : Driver ω κ) : Driver (Watched ω κ) κ where
  name := d.name
  connect t w :=
    let reply := d.connect t w.world
    reply.mapState (w.after (.connect reply.result))

def registry (r : Registry (Driver ω κ)) : Registry (Driver (Watched ω κ) κ) :=
  ⟨r.entries.map fun (name, d) => (name, driver d)⟩

def backend (b : Backend ω κ τ) : Backend (Watched ω κ) κ τ where
  prepare sql c w :=
    let reply := b.prepare sql c w.world
    reply.mapState (w.after (.prepare c (errorOf reply.result)))
  closeConnection c w := w.noted (.closeConnection c) (b.closeConnection c w.world)
  bind position p s w := w.noted .bind (b.bind position p s w.world)
  addBatch s w := w.noted .addBatch (b.addBatch s w.world)
  executeBatch s w := w.noted (.executeBatch (b.batchLength s)) (b.executeBatch s w.world)
  closeStatement s w := w.noted .closeStatement (b.closeStatement s w.world)
  batchLength := b.batchLength
  sql := b.sql
  executionTime s w := b.executionTime s w.world

/-- The writer with its drivers watched. -/
def writer (x : Writer ω κ τ) : Writer (Watched ω κ) κ τ :=
  ⟨x.plan, registry x.registry, x.phase, x.stats⟩

end Watched

lemma simulates_watched (b : Backend ω κ τ) : Simulates Watched.world (Watched.backend b) b := by
  constructor <;> intros <;> rfl

lemma resolve_watched (r : Registry (Driver ω κ)) (query : String) :
    (Watched.registry r).resolve query = (r.resolve query).map Watched.driver := by
  have hfind : (Watched.registry r).find? query = (r.find? query).map Watched.driver :=
    Ordered.find?_map Watched.driver _ r.entries
  rw [Registry.resolve, Registry.resolve, hfind]
  cases r.find? query <;> rfl

lemma alike_watched (x : Writer ω κ τ) : Alike Watched.world (Watched.writer x) x := by
  refine ⟨rfl, rfl, rfl, ?_⟩
  simp only [Watched.writer, resolve_watched]
  cases x.registry.resolve x.plan.driver <;> rfl

/-- Noting the exchanges changes nothing that a call answers, logs or leaves. -/
theorem perform_watched [Url.Names] (b : Backend ω κ τ) (c : Command) (x : Writer ω κ τ)
    (w : Watched ω κ) :
    Agrees Watched.world (perform (Watched.backend b) c (Watched.writer x, w))
      (perform b c (x, w.world)) :=
  (alike_watched x).perform_agrees (simulates_watched b) c w

/-- What a call asks of the driver, its connection and its statement. -/
def asks [Url.Names] (b : Backend ω κ τ) (c : Command) (state : Writer ω κ τ × ω) :
    List (Exchange κ) :=
  (perform (Watched.backend b) c (Watched.writer state.1, ⟨state.2, []⟩)).state.2.exchanges

end BatchInsert.Proofs
