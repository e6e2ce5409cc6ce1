import BatchInsert.Database.Backend
import BatchInsert.Database.Placeholders
import BatchInsert.Database.Server
import BatchInsert.Mysql.Datum
import BatchInsert.Mysql.Options

/-!
# The MySQL backend

The rows of a batch are executed one after the other up to the first that fails. Closing a
connection ends its session for the statements that were prepared in it, too.
-/

namespace BatchInsert.Mysql

open Database (Backend Error Fault Placeholders Reply Target)

/-- Statements are described by the number of their parameters. -/
abbrev Server (σ : Type) := Database.Server σ Options UInt16 Datum

/-- The server, and the sessions that have not been closed. -/
structure World (σ : Type) where
  server : σ
  sessions : List Nat

structure Connection where
  session : Nat

structure Statement where
  session : Nat
  placeholders : Placeholders
  batch : Array (List Datum)

variable {σ : Type}

namespace World

def start (s : σ) : World σ := ⟨s, []⟩

def isOpen (w : World σ) (session : Nat) : Bool := w.sessions.contains session

def enter (w : World σ) (session : Nat) : World σ := { w with sessions := session :: w.sessions }

def leave (w : World σ) (session : Nat) : World σ :=
  { w with sessions := w.sessions.filter (· != session) }

end World

/-- The options of a target; credentials count before those of the URL. -/
def options [Url.Names] (t : Target) : Except Error Options :=
  match Options.ofText t.url with
  | .error e => .error (.configuration ("Invalid MySQL URL: " ++ e.message))
  | .ok o =>
    match t.credentials with
    | none => .ok o
    | some c => .ok { o with user := some c.username, password := some c.password }

def connect [Url.Names] (server : Server σ) (t : Target) (w : World σ) :
    Reply Error (World σ) Connection :=
  match options t with
  | .error e => .fail e w
  | .ok o =>
    match server.login o w.server with
    | (.error f, s) => .fail f.unconnected { w with server := s }
    | (.ok session, s) => .ok ⟨session⟩ ({ w with server := s }.enter session)

def prepare (server : Server σ) (sql : String) (c : Connection) (w : World σ) :
    Reply Error (World σ) Statement :=
  if !w.isOpen c.session then .fail .connectionClosed w
  else
    match server.prepare c.session sql w.server with
    | (.error f, s) => .fail (f.rejected sql) { w with server := s }
    | (.ok count, s) =>
      (Reply.ok ⟨c.session, .fresh sql count.toNat, #[]⟩ { w with server := s }).after
        [Log.plain (.prepared "MySQL" count.toNat)]

def closeConnection (server : Server σ) (c : Connection) (w : World σ) :
    Reply Error (Connection × World σ) Unit :=
  if !w.isOpen c.session then .ok () (c, w)
  else
    let w := w.leave c.session
    match server.logout c.session w.server with
    | (.error f, s) =>
      .fail (.connection "failed to close connection" f.chain) (c, { w with server := s })
    | (.ok (), s) => .ok () (c, { w with server := s })

namespace Statement

def sql (s : Statement) : String := s.placeholders.sql

def bind (position : Nat) (p : Sql.Param) (s : Statement) (w : World σ) :
    Reply Error (Statement × World σ) Unit :=
  match s.placeholders.bind position p with
  | .error e => .fail e (s, w)
  | .ok placeholders => .ok () ({ s with placeholders }, w)

def addBatch (s : Statement) (w : World σ) : Reply Error (Statement × World σ) Unit :=
  match s.placeholders.takeRow with
  | .error e => .fail e (s, w)
  | .ok (row, placeholders) =>
    .ok () ({ s with placeholders, batch := s.batch.push (row.map Datum.ofParam) }, w)

/-- Rows in order up to the first that fails. -/
def executeRows (server : Server σ) (s : Statement) :
    List (List Datum) → σ → Except Fault (List Nat) × σ
  | [], w => (.ok [], w)
  | row :: rows, w =>
    match server.execute s.session s.sql row w with
    | (.error f, w) => (.error f, w)
    | (.ok count, w) =>
      let (counts, w) := executeRows server s rows w
      (counts.map (count :: ·), w)

def executeBatch (server : Server σ) (s : Statement) (w : World σ) :
    Reply Error (Statement × World σ) (List Nat) :=
  let rows := s.batch.toList
  let drained := { s with batch := #[] }
  if rows.isEmpty then .ok [] (drained, w)
  else if !w.isOpen s.session then .fail .connectionClosed (drained, w)
  else
    match executeRows server s rows w.server with
    | (.error f, server) => .fail (f.rejected s.sql) (drained, { w with server })
    | (.ok counts, server) => .ok counts (drained, { w with server })

/-- Forgets the parameters and the batch, and tells the server where the session is open. -/
def close (server : Server σ) (s : Statement) (w : World σ) :
    Reply Error (Statement × World σ) Unit :=
  let closed := { s with placeholders := s.placeholders.clear, batch := #[] }
  if !w.isOpen s.session then .ok () (closed, w)
  else
    match server.discard s.session s.sql w.server with
    | (.error f, server) => .fail (f.rejected s.sql) (closed, { w with server })
    | (.ok (), server) => .ok () (closed, { w with server })

end Statement

def driver [Url.Names] (server : Server σ) : Database.Driver (World σ) Connection :=
  ⟨"mysql", connect server⟩

def backend (server : Server σ) : Backend (World σ) Connection Statement where
  prepare := prepare server
  closeConnection := closeConnection server
  bind := Statement.bind
  addBatch := Statement.addBatch
  executeBatch := Statement.executeBatch server
  closeStatement := Statement.close server
  batchLength s := s.batch.size
  sql := Statement.sql
  executionTime s w := server.executionTime s.session s.sql s.batch.size w.server

/-- The server where there is no network. -/
def unreachable : Server Unit :=
  .unreachable _ _ _
    ⟨"Input/output error: Input/output error: Network is unreachable (os error 101)",
      ["Input/output error: Network is unreachable (os error 101)",
        "Network is unreachable (os error 101)"]⟩

end BatchInsert.Mysql
