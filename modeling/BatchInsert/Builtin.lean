import BatchInsert.Memory
import BatchInsert.Mysql.Backend
import BatchInsert.Postgres.Backend
import BatchInsert.Registry

/-!
# The built-in drivers

Memory, PostgreSQL and MySQL under their names, and one backend over all three. A statement belongs
to the database whose connection has prepared it.
-/

namespace BatchInsert

inductive Builtin
  | memory
  | postgres
  | mysql
deriving DecidableEq, Repr

namespace Builtin

open Database (Backend Error Reply)

def all : List Builtin := [memory, postgres, mysql]

/-- The names under which a driver is registered. -/
def names : Builtin → List String
  | memory => ["memory"]
  | postgres => ["postgres", "postgresql", "org.postgresql.Driver"]
  | mysql => ["mysql", "mariadb", "com.mysql.cj.jdbc.Driver", "com.mysql.jdbc.Driver"]

/-- The registry of all built-in drivers. -/
def registry {δ : Type} (driver : Builtin → δ) : Registry δ :=
  all.foldl (fun r b => r.registerAll b.names (driver b)) .empty

/-- The journal and the two servers. -/
structure World (σ σ' : Type) where
  memory : Memory.World
  postgres : σ
  mysql : Mysql.World σ'

inductive Connection
  | memory (c : Memory.Connection)
  | postgres (c : Postgres.Connection)
  | mysql (c : Mysql.Connection)

inductive Statement
  | memory (s : Memory.Statement)
  | postgres (s : Postgres.Statement)
  | mysql (s : Mysql.Statement)

variable {σ σ' α : Type}

def World.withMemory (w : World σ σ') (m : Memory.World) : World σ σ' := { w with memory := m }

def World.withPostgres (w : World σ σ') (s : σ) : World σ σ' := { w with postgres := s }

def World.withMysql (w : World σ σ') (s : Mysql.World σ') : World σ σ' := { w with mysql := s }

/-- A reply with its value and its state as those of the whole. -/
def embed {β ρ ρ' : Type} (value : α → β) (state : ρ → ρ') (r : Reply Error ρ α) :
    Reply Error ρ' β := ⟨r.result.map value, state r.state, r.log⟩

variable (postgresServer : Postgres.Server σ) (mysqlServer : Mysql.Server σ')

def driver [Url.Names] : Builtin → Database.Driver (World σ σ') Connection
  | memory =>
    ⟨Memory.driver.name, fun t w =>
      embed .memory w.withMemory (Memory.driver.connect t w.memory)⟩
  | postgres =>
    let d := Postgres.driver postgresServer
    ⟨d.name, fun t w => embed .postgres w.withPostgres (d.connect t w.postgres)⟩
  | mysql =>
    let d := Mysql.driver mysqlServer
    ⟨d.name, fun t w => embed .mysql w.withMysql (d.connect t w.mysql)⟩

def prepare (sql : String) (c : Connection) (w : World σ σ') :
    Reply Error (World σ σ') Statement :=
  match c with
  | .memory c => embed .memory w.withMemory (Memory.backend.prepare sql c w.memory)
  | .postgres c =>
    embed .postgres w.withPostgres ((Postgres.backend postgresServer).prepare sql c w.postgres)
  | .mysql c => embed .mysql w.withMysql ((Mysql.backend mysqlServer).prepare sql c w.mysql)

def closeConnection (c : Connection) (w : World σ σ') :
    Reply Error (Connection × World σ σ') Unit :=
  match c with
  | .memory c =>
    (Memory.backend.closeConnection c w.memory).mapState fun s => (.memory s.1, w.withMemory s.2)
  | .postgres c =>
    ((Postgres.backend postgresServer).closeConnection c w.postgres).mapState fun s =>
      (.postgres s.1, w.withPostgres s.2)
  | .mysql c =>
    ((Mysql.backend mysqlServer).closeConnection c w.mysql).mapState fun s =>
      (.mysql s.1, w.withMysql s.2)

/-- A call on a statement, given as that of every backend. -/
def onStatement
    (call : {ω κ τ : Type} → Backend ω κ τ → τ → ω → Reply Error (τ × ω) α)
    (s : Statement) (w : World σ σ') : Reply Error (Statement × World σ σ') α :=
  match s with
  | .memory s =>
    (call Memory.backend s w.memory).mapState fun s => (.memory s.1, w.withMemory s.2)
  | .postgres s =>
    (call (Postgres.backend postgresServer) s w.postgres).mapState fun s =>
      (.postgres s.1, w.withPostgres s.2)
  | .mysql s =>
    (call (Mysql.backend mysqlServer) s w.mysql).mapState fun s => (.mysql s.1, w.withMysql s.2)

def executionTime (s : Statement) (w : World σ σ') : Duration :=
  match s with
  | .memory s => Memory.backend.executionTime s w.memory
  | .postgres s => (Postgres.backend postgresServer).executionTime s w.postgres
  | .mysql s => (Mysql.backend mysqlServer).executionTime s w.mysql

def batchLength : Statement → Nat
  | .memory s => s.batch.size
  | .postgres s => s.batch.size
  | .mysql s => s.batch.size

def sql : Statement → String
  | .memory s => s.sql
  | .postgres s => s.sql
  | .mysql s => s.sql

def backend : Backend (World σ σ') Connection Statement where
  prepare := prepare postgresServer mysqlServer
  closeConnection := closeConnection postgresServer mysqlServer
  bind position p := onStatement postgresServer mysqlServer fun b => b.bind position p
  addBatch := onStatement postgresServer mysqlServer fun b => b.addBatch
  executeBatch := onStatement postgresServer mysqlServer fun b => b.executeBatch
  closeStatement := onStatement postgresServer mysqlServer fun b => b.closeStatement
  batchLength := batchLength
  sql := sql
  executionTime := executionTime postgresServer mysqlServer

end Builtin

end BatchInsert
