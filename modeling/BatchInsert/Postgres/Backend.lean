import BatchInsert.Database.Backend
import BatchInsert.Database.Placeholders
import BatchInsert.Database.Server
import BatchInsert.Postgres.Datum
import BatchInsert.Postgres.Options

/-!
# The PostgreSQL backend

The rows of a batch are sent one behind the other without waiting for answers, except those that
make no message: one with a parameter that its type does not take, or one that is too long. The
first row that fails, if any, is the error of the batch. A session lives as long as a connection or
a statement that refers to it.
-/

namespace BatchInsert.Postgres

open Database (Backend Error Fault Placeholders Reply Target)

/-- A statement as it is prepared: the name that messages know it by, and the types of its
parameters. -/
structure Description where
  name : String
  types : List ServerType

/-- What the client library makes of messages that cannot be sent. -/
structure Library where
  /-- The number of parameters that a message has room for. -/
  maxParameters : Nat
  /-- Why a parameter is no value of a type, in words. -/
  misfit : ServerType → Argument → String

/-- A server behind its client library. -/
structure Server (σ : Type) extends Database.Server σ Options Description (Option (List UInt8)) where
  library : Library

structure Connection where
  session : Nat
  isClosed : Bool

structure Statement where
  session : Nat
  name : String
  types : List ServerType
  placeholders : Placeholders
  batch : Array (List Sql.Param)

variable {σ : Type}

/-- The options of a target; credentials count before those of the URL. -/
def options (t : Target) : Except Error Options :=
  match Options.ofText? t.url with
  | none => .error (.configuration "Invalid PostgreSQL URL: invalid connection string")
  | some o =>
    match t.credentials with
    | none => .ok o
    | some c =>
      .ok { o with user := some c.username, password := some (Url.utf8Bytes c.password.toList) }

def connect (server : Server σ) (t : Target) (w : σ) : Reply Error σ Connection :=
  match options t with
  | .error e => .fail e w
  | .ok o =>
    match o.misfit? with
    | some m => .fail (Fault.unconnected ⟨"invalid configuration", [m.text]⟩) w
    | none =>
      match server.login o w with
      | (.error f, w) => .fail f.unconnected w
      | (.ok session, w) => .ok ⟨session, false⟩ w

def prepare (server : Server σ) (sql : String) (c : Connection) (w : σ) : Reply Error σ Statement :=
  if c.isClosed then .fail .connectionClosed w
  else
    match server.prepare c.session sql w with
    | (.error f, w) => .fail (f.rejected sql) w
    | (.ok ⟨name, types⟩, w) =>
      (Reply.ok ⟨c.session, name, types, .fresh sql types.length, #[]⟩ w).after
        [Log.plain (.prepared "PostgreSQL" types.length)]

def closeConnection (c : Connection) (w : σ) : Reply Error (Connection × σ) Unit :=
  .ok () ({ c with isClosed := true }, w)

def unfit (index : Nat) (why : String) : Fault :=
  ⟨"error serializing parameter " ++ Text.decimal index, [why]⟩

def tooLong : Fault := ⟨"error encoding message to server", ["value too large to transmit"]⟩

def miscounted (expected got : Nat) : Fault :=
  ⟨"expected " ++ Text.decimal expected ++ " parameters but got " ++ Text.decimal got, []⟩

/-- The cells of a row, or why the first parameter that cannot be sent as its type cannot be. -/
def cells (library : Library) (index : Nat) :
    List ServerType → List Argument → Except Fault (List (Option (List UInt8)))
  | t :: ts, a :: as =>
    if !a.accepts t then .error (unfit index (library.misfit t a))
    else if !a.fits t then .error tooLong
    else (cells library (index + 1) ts as).map (a.cell t :: ·)
  | _, _ => .ok []

/-- The length of the cells of a row, each behind its own length in four bytes. -/
def cellsLength : List (Option (List UInt8)) → Nat
  | [] => 0
  | cell :: cells => 4 + cell.elim 0 List.length + cellsLength cells

/-- The length of the message that binds a row to a statement: its own length, the names of no
portal and of the statement, the forms of the cells, the cells, and the form of the results. -/
def messageLength (name : String) (cells : List (Option (List UInt8))) : Nat :=
  4 + 1 + (name.utf8ByteSize + 1) + (2 + 2 * cells.length) + (2 + cellsLength cells) + (2 + 2)

/-- The cells of a row that a message can be made of. Its length is sent in 31 bits. -/
def message (library : Library) (name : String) (types : List ServerType) (row : List Argument) :
    Except Fault (List (Option (List UInt8))) :=
  if row.length ≠ types.length then .error (miscounted types.length row.length)
  else if library.maxParameters < row.length then .error tooLong
  else
    (cells library 0 types row).bind fun cells =>
      if messageLength name cells < 2 ^ 31 then .ok cells else .error tooLong

namespace Statement

def sql (s : Statement) : String := s.placeholders.sql

def bind (position : Nat) (p : Sql.Param) (s : Statement) (w : σ) :
    Reply Error (Statement × σ) Unit :=
  match s.placeholders.bind position p with
  | .error e => .fail e (s, w)
  | .ok placeholders => .ok () ({ s with placeholders }, w)

def addBatch (s : Statement) (w : σ) : Reply Error (Statement × σ) Unit :=
  match s.placeholders.takeRow with
  | .error e => .fail e (s, w)
  | .ok (row, placeholders) => .ok () ({ s with placeholders, batch := s.batch.push row }, w)

/-- One row: what comes of it, and the server after it. -/
def executeRow (server : Server σ) (s : Statement) (row : List Sql.Param) (w : σ) :
    Except Fault Nat × σ :=
  match message server.library s.name s.types (row.map Argument.ofParam) with
  | .error f => (.error f, w)
  | .ok cells => server.execute s.session s.sql cells w

/-- All rows in order, whatever comes of those before. -/
def executeRows (server : Server σ) (s : Statement) :
    List (List Sql.Param) → σ → List (Except Fault Nat) × σ
  | [], w => ([], w)
  | row :: rows, w =>
    let (result, w) := executeRow server s row w
    let (results, w) := executeRows server s rows w
    (result :: results, w)

def executeBatch (server : Server σ) (s : Statement) (w : σ) :
    Reply Error (Statement × σ) (List Nat) :=
  let (results, w) := executeRows server s s.batch.toList w
  let drained := { s with batch := #[] }
  match results.mapM id with
  | .error f => .fail (f.rejected s.sql) (drained, w)
  | .ok counts => .ok counts (drained, w)

def close (s : Statement) (w : σ) : Reply Error (Statement × σ) Unit :=
  .ok () ({ s with placeholders := s.placeholders.clear, batch := #[] }, w)

end Statement

def driver (server : Server σ) : Database.Driver σ Connection := ⟨"postgres", connect server⟩

def backend (server : Server σ) : Backend σ Connection Statement where
  prepare := prepare server
  closeConnection := closeConnection
  bind := Statement.bind
  addBatch := Statement.addBatch
  executeBatch := Statement.executeBatch server
  closeStatement := Statement.close
  batchLength s := s.batch.size
  sql := Statement.sql
  executionTime s w := server.executionTime s.session s.sql s.batch.size w

/-- A client library that has room for as many parameters as there can be, and says no more of a
misfit than the name of the type. -/
def Library.plain : Library := ⟨65535, fun t _ => "cannot convert to the type " ++ t.name⟩

/-- The server where there is no network. -/
def unreachable : Server Unit where
  toServer :=
    .unreachable _ _ _ ⟨"error connecting to server", ["Network is unreachable (os error 101)"]⟩
  library := .plain

end BatchInsert.Postgres
