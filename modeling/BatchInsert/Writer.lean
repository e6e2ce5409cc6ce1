import BatchInsert.Binding
import BatchInsert.Plan
import BatchInsert.Registry

/-!
# Writers

A writer binds records to its statement and executes the batch whenever it is full, when it is told
to, and when it is closed. It is unopened, then active, then closed for good; it holds a connection
and a statement exactly as long as it is active.
-/

namespace BatchInsert

open Database (Backend Driver Error Reply)

/-- What an active writer holds. -/
structure Writer.Session (κ τ : Type) where
  connection : κ
  statement : τ
  /-- Records in the statement's batch. -/
  pending : Nat

inductive Writer.Phase (κ τ : Type)
  | unopened
  | active (session : Writer.Session κ τ)
  | closed

structure Writer (ω κ τ : Type) where
  plan : Plan
  registry : Registry (Driver ω κ)
  phase : Writer.Phase κ τ
  stats : Stats

namespace Writer

variable {ω κ τ : Type}

namespace Phase

def name : Phase κ τ → String
  | unopened => "unopened"
  | active _ => "active"
  | closed => "closed"

/-- The name in the text of an inspected writer. -/
def label : Phase κ τ → String
  | unopened => "Unopened"
  | active _ => "Active"
  | closed => "Closed"

end Phase

def ofPlan (plan : Plan) (registry : Registry (Driver ω κ)) : Writer ω κ τ :=
  ⟨plan, registry, .unopened, .zero⟩

def session? (x : Writer ω κ τ) : Option (Session κ τ) :=
  match x.phase with
  | .active s => some s
  | _ => none

/-- Records taken since the last execution. -/
def pending (x : Writer ω κ τ) : Nat := (x.session?.map Session.pending).getD 0

def inspect [Url.Names] (x : Writer ω κ τ) : String :=
  Text.Inspect.record "BatchWriter"
    [("config", x.plan.inspect), ("state", x.phase.label), ("pending", Text.decimal x.pending)]
    false

/-- The span of opening as one of `total` writers. -/
def openSpan (x : Writer ω κ τ) (index total : Nat) : Log.Span :=
  ⟨"open", [("driver", x.plan.driver), ("instance_index", Text.decimal index),
    ("total_instances", Text.decimal total)]⟩

def closeSpan (x : Writer ω κ τ) : Log.Span := ⟨"close", [("driver", x.plan.driver)]⟩

/-- A connection with its statement. If the statement cannot be prepared the connection is closed
again. -/
def connect (b : Backend ω κ τ) (x : Writer ω κ τ) (w : ω) :
    Reply OpenFailure ω (Session κ τ) :=
  match x.registry.resolve x.plan.driver with
  | .error e => .fail (.driver x.plan.driver e) w
  | .ok driver =>
    let connected := driver.connect x.plan.target w
    match connected.result with
    | .error e => ⟨.error (.connection e), connected.state, connected.log⟩
    | .ok connection =>
      let prepared := b.prepare x.plan.statement connection connected.state
      let logged := connected.log ++ prepared.log
      match prepared.result with
      | .ok statement => ⟨.ok ⟨connection, statement, 0⟩, prepared.state, logged⟩
      | .error e =>
        let closed := b.closeConnection connection prepared.state
        let left := match closed.result with
          | .ok () => []
          | .error e' => [Log.plain (.connectionLeft e'.text)]
        ⟨.error (.statement x.plan.statement e), closed.state.2, logged ++ closed.log ++ left⟩

/-- Opens the writer as one of `total`; after a failure it is as it was. -/
def start [Url.Names] (b : Backend ω κ τ) (index total : Nat) (x : Writer ω κ τ) (w : ω) :
    Reply OpenFailure (Writer ω κ τ × ω) Unit :=
  match x.phase with
  | .active _ => .fail .alreadyOpen (x, w)
  | .closed => .fail .closed (x, w)
  | .unopened =>
    let reply := connect b x w
    let span := x.openSpan index total
    match reply.result with
    | .error f => ⟨.error f, (x, reply.state), Log.within span reply.log⟩
    | .ok session =>
      let opened := Log.plain (.opened (redact x.plan.url) x.plan.batchSize)
      ⟨.ok (), ({ x with phase := .active session }, reply.state),
        Log.within span (reply.log ++ [opened])⟩

/-- Executes the batch of a session unless there are no records in it. -/
def execute (b : Backend ω κ τ) (s : Session κ τ) (stats : Stats) (w : ω) :
    Reply WriteFailure (Session κ τ × Stats × ω) Unit :=
  if s.pending = 0 then .ok () (s, stats, w)
  else
    let rows := UInt64.ofNat s.pending
    let reply := b.executeBatch s.statement w
    let session := { s with statement := reply.state.1, pending := 0 }
    match reply.result with
    | .ok _ =>
      ⟨.ok (), (session, stats.flush rows (b.executionTime s.statement w), reply.state.2),
        reply.log ++ [Log.plain (.flushed s.pending)]⟩
    | .error e =>
      ⟨.error (.execution s.pending e), (session, stats.fail rows, reply.state.2), reply.log⟩

/-- The writer with a session and counters put back. -/
def resume (x : Writer ω κ τ) (state : Session κ τ × Stats × ω) : Writer ω κ τ × ω :=
  ({ x with phase := .active state.1, stats := state.2.1 }, state.2.2)

/-- What is logged of a record with more or fewer fields than there are declared types. -/
def arityNotice (plan : Plan) (r : Record) : List Log.Entry :=
  match plan.columnTypes with
  | none => []
  | some types =>
    if types.length = r.arity then []
    else [Log.plain (.arityDiffers types.length r.arity)]

/-- The record's row in the batch of the statement. -/
def append (b : Backend ω κ τ) (types : Option (List Sql.Tag)) (r : Record) (s : τ) (w : ω) :
    Reply WriteFailure (τ × ω) Unit :=
  let bound := Binding.record b types r s w
  match bound.result with
  | .error f => ⟨.error f, bound.state, bound.log⟩
  | .ok () =>
    ((b.addBatch bound.state.1 bound.state.2).mapError WriteFailure.addBatch).after bound.log

/-- Takes a record and executes the batch once it is full. -/
def write (b : Backend ω κ τ) (r : Record) (x : Writer ω κ τ) (w : ω) :
    Reply WriteFailure (Writer ω κ τ × ω) Unit :=
  match x.phase with
  | .active s =>
    let added := append b x.plan.columnTypes r s.statement w
    let logged := arityNotice x.plan r ++ added.log
    let session := { s with statement := added.state.1 }
    match added.result with
    | .error f => ⟨.error f, x.resume (session, x.stats.reject, added.state.2), logged⟩
    | .ok () =>
      let session := { session with pending := s.pending + 1 }
      let stats := x.stats.write
      if session.pending < x.plan.batchSize then
        ⟨.ok (), x.resume (session, stats, added.state.2), logged⟩
      else
        ((execute b session stats added.state.2).mapState x.resume).after logged
  | _ => .fail .notOpen (x, w)

/-- Executes the batch now. -/
def flush (b : Backend ω κ τ) (x : Writer ω κ τ) (w : ω) :
    Reply WriteFailure (Writer ω κ τ × ω) Unit :=
  match x.phase with
  | .active s => (execute b s x.stats w).mapState x.resume
  | _ => .fail .notOpen (x, w)

/-- The failures of closing in the order they happened. -/
abbrev CloseReport := List CloseFailure

namespace CloseReport

def isClean (r : CloseReport) : Bool := r.isEmpty

def flushFailed (r : CloseReport) : Bool := r.any fun | .flush _ _ => true | _ => false

end CloseReport

/-- What closing leaves behind. -/
structure Closing (σ : Type) where
  state : σ
  report : CloseReport
  log : List Log.Entry

/-- Executes the last batch. -/
def closeBatch (b : Backend ω κ τ) (s : Session κ τ) (stats : Stats) (w : ω) :
    Closing (τ × Stats × ω) :=
  if s.pending = 0 then ⟨(s.statement, stats, w), [], []⟩
  else
    let rows := UInt64.ofNat s.pending
    let reply := b.executeBatch s.statement w
    match reply.result with
    | .ok _ =>
      ⟨(reply.state.1, stats.flush rows (b.executionTime s.statement w), reply.state.2), [],
        reply.log ++ [Log.plain (.finalFlushed s.pending)]⟩
    | .error e =>
      ⟨(reply.state.1, stats.fail rows, reply.state.2), [.flush s.pending e],
        reply.log ++ [Log.plain (.finalFailed e.text s.pending)]⟩

def closeStatement (b : Backend ω κ τ) (s : τ) (w : ω) : Closing ω :=
  let reply := b.closeStatement s w
  match reply.result with
  | .ok () => ⟨reply.state.2, [], reply.log⟩
  | .error e =>
    ⟨reply.state.2, [.statement e], reply.log ++ [Log.plain (.statementNotClosed e.text)]⟩

def closeConnection (b : Backend ω κ τ) (c : κ) (w : ω) : Closing ω :=
  let reply := b.closeConnection c w
  match reply.result with
  | .ok () => ⟨reply.state.2, [], reply.log⟩
  | .error e =>
    ⟨reply.state.2, [.connection e], reply.log ++ [Log.plain (.connectionNotClosed e.text)]⟩

/-- Executes the last batch and gives up the statement and the connection, whatever fails. -/
def closeSession (b : Backend ω κ τ) (s : Session κ τ) (stats : Stats) (w : ω) :
    Closing (Stats × ω) :=
  let batch := closeBatch b s stats w
  let statement := closeStatement b batch.state.1 batch.state.2.2
  let connection := closeConnection b s.connection statement.state
  ⟨(batch.state.2.1, connection.state), batch.report ++ statement.report ++ connection.report,
    batch.log ++ statement.log ++ connection.log⟩

def closedEvent (s : Stats) : Log.Event :=
  .closed s.flushed.toNat s.failed.toNat s.batchesFlushed.toNat

/-- Closes the writer, which never fails; closing it again does nothing. -/
def close (b : Backend ω κ τ) (x : Writer ω κ τ) (w : ω) : Closing (Writer ω κ τ × ω) :=
  match x.phase with
  | .closed => ⟨(x, w), [], []⟩
  | .unopened =>
    ⟨({ x with phase := .closed }, w), [],
      Log.within x.closeSpan [Log.plain (closedEvent x.stats)]⟩
  | .active s =>
    let closing := closeSession b s x.stats w
    ⟨({ x with phase := .closed, stats := closing.state.1 }, closing.state.2), closing.report,
      Log.within x.closeSpan (closing.log ++ [Log.plain (closedEvent closing.state.1)])⟩

/-- What is logged when a writer is given up without being closed. -/
def dropNotice (x : Writer ω κ τ) : List Log.Entry :=
  if x.pending = 0 then [] else [Log.plain (.dropped x.pending)]

end Writer

end BatchInsert
