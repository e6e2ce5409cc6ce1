import BatchInsert.Database.Backend

/-!
# The in-memory backend

Takes any target and executes nothing: a journal, shared by all connections, keeps the calls that
came through and the rows of every executed batch. Calls can be made to fail, and executing takes
as long as the world says.
-/

namespace BatchInsert.Memory

open Database (Backend Call Error Reply Target)
open Sql (Param)

inductive Event
  | connect (url : String) (username : Option String)
  | prepare (sql : String)
  | bind (position : Nat) (param : Param)
  | addBatch
  | executeBatch (rows : Nat)
  | closeStatement
  | closeConnection

/-- Parameters in the order of their positions. -/
abbrev Row := List Param

structure Journal where
  /-- In the order of the calls. -/
  events : Array Event
  /-- The rows of each batch that was executed without failure. -/
  batches : Array (List Row)

namespace Journal

def empty : Journal := ⟨#[], #[]⟩

def record (j : Journal) (e : Event) : Journal := { j with events := j.events.push e }

def execute (j : Journal) (rows : List Row) : Journal :=
  ⟨j.events.push (.executeBatch rows.length), j.batches.push rows⟩

def count (j : Journal) (p : Event → Bool) : Nat := j.events.countP p

def binds (j : Journal) : Nat := j.count fun | .bind _ _ => true | _ => false

/-- Executions, failed ones included. -/
def executions (j : Journal) : Nat := j.count fun | .executeBatch _ => true | _ => false

def rowsExecuted (j : Journal) : Nat := j.batches.toList.flatten.length

def connects (j : Journal) : Nat := j.count fun | .connect _ _ => true | _ => false

def statementsClosed (j : Journal) : Nat := j.count fun | .closeStatement => true | _ => false

def connectionsClosed (j : Journal) : Nat := j.count fun | .closeConnection => true | _ => false

end Journal

structure World where
  journal : Journal
  /-- The calls that fail for now. -/
  faults : List Call
  /-- How long executing a batch takes for now. -/
  pace : Duration

namespace World

def start : World := ⟨.empty, [], ⟨0, 0⟩⟩

def fail (w : World) (c : Call) : World := { w with faults := c :: w.faults }

def recover (w : World) (c : Call) : World := { w with faults := w.faults.filter (· != c) }

def keepPace (w : World) (pace : Duration) : World := { w with pace }

def record (w : World) (e : Event) : World := { w with journal := w.journal.record e }

def clear (w : World) : World := { w with journal := .empty }

end World

/-- How an injected failure speaks of a call. -/
def callName : Call → String
  | .connect => "Connect"
  | .prepare => "Prepare"
  | .bind => "Bind"
  | .addBatch => "AddBatch"
  | .executeBatch => "ExecuteBatch"
  | .closeStatement => "CloseStatement"
  | .closeConnection => "CloseConnection"

def injected (c : Call) : Error :=
  let message := "injected " ++ callName c ++ " failure"
  match c with
  | .connect | .closeConnection => .connection message []
  | .bind => .conversion message
  | _ => .query message none []

structure Connection where
  isClosed : Bool

structure Statement where
  sql : String
  /-- The parameters bound so far, by position. -/
  current : List (Nat × Param)
  batch : Array Row

def connect (t : Target) (w : World) : Reply Error World Connection :=
  if w.faults.contains .connect then .fail (injected .connect) w
  else .ok ⟨false⟩ (w.record (.connect t.url (t.credentials.map (·.username))))

def prepare (sql : String) (c : Connection) (w : World) : Reply Error World Statement :=
  if c.isClosed then .fail .connectionClosed w
  else if w.faults.contains .prepare then .fail (injected .prepare) w
  else .ok ⟨sql, [], #[]⟩ (w.record (.prepare sql))

def closeConnection (c : Connection) (w : World) : Reply Error (Connection × World) Unit :=
  if w.faults.contains .closeConnection then .fail (injected .closeConnection) (c, w)
  else .ok () (⟨true⟩, w.record .closeConnection)

namespace Statement

def bind (position : Nat) (p : Param) (s : Statement) (w : World) :
    Reply Error (Statement × World) Unit :=
  if position = 0 then .fail (.query "parameter positions start at 1" none []) (s, w)
  else if w.faults.contains .bind then .fail (injected .bind) (s, w)
  else
    .ok () ({ s with current := Ordered.insert position p s.current },
      w.record (.bind position p))

/-- The row holds the bound parameters without their positions. -/
def addBatch (s : Statement) (w : World) : Reply Error (Statement × World) Unit :=
  if w.faults.contains .addBatch then .fail (injected .addBatch) (s, w)
  else
    .ok () ({ s with current := [], batch := s.batch.push (s.current.map Prod.snd) },
      w.record .addBatch)

def executeBatch (s : Statement) (w : World) : Reply Error (Statement × World) (List Nat) :=
  let rows := s.batch.toList
  let drained := { s with batch := #[] }
  if w.faults.contains .executeBatch then
    .fail (injected .executeBatch) (drained, w.record (.executeBatch rows.length))
  else
    .ok (List.replicate rows.length 1) (drained, { w with journal := w.journal.execute rows })

/-- Forgets the bound parameters and keeps the batch. -/
def close (s : Statement) (w : World) : Reply Error (Statement × World) Unit :=
  if w.faults.contains .closeStatement then .fail (injected .closeStatement) (s, w)
  else .ok () ({ s with current := [] }, w.record .closeStatement)

end Statement

def driver : Database.Driver World Connection := ⟨"memory", connect⟩

def backend : Backend World Connection Statement where
  prepare := prepare
  closeConnection := closeConnection
  bind := Statement.bind
  addBatch := Statement.addBatch
  executeBatch := Statement.executeBatch
  closeStatement := Statement.close
  batchLength s := s.batch.size
  sql s := s.sql
  executionTime _ w := w.pace

end BatchInsert.Memory
