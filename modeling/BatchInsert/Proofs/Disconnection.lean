import BatchInsert.Proofs.Client
import Mathlib.Data.List.Forall2

/-!
# Closing a connection

A closed connection prepares nothing any more, over every built-in backend. A MySQL session is over
for its statements, too. In memory and over PostgreSQL a statement does not look back to the
connection that has prepared it, and goes on as before.
-/

namespace BatchInsert.Proofs

variable {σ σ' ι : Type}

/-- The MySQL session of a connection. -/
def mysqlSession? : Builtin.Connection → Option Nat
  | .memory _ | .postgres _ => none
  | .mysql c => some c.session

/-- The MySQL session that a statement was prepared in. -/
def preparedIn? : Builtin.Statement → Option Nat
  | .memory _ | .postgres _ => none
  | .mysql s => some s.session

def isShut (c : Builtin.Connection) (w : Builtin.World σ σ') : Bool :=
  match c with
  | .memory c => c.isClosed
  | .postgres c => c.isClosed
  | .mysql c => !w.mysql.isOpen c.session

abbrev BuiltinClient (σ σ' : Type) : Type :=
  Client (Builtin.World σ σ') Builtin.Connection Builtin.Statement

/-- The client holds a connection with the MySQL session `session?`, if any, and statements that
were prepared in it. -/
structure Holding (session? : Option Nat) (x : BuiltinClient σ σ') : Prop where
  connection : mysqlSession? x.connection = session?
  statements : ∀ s ∈ x.statements, preparedIn? s = session?

/-- The connection is shut as well. -/
structure Disconnected (session? : Option Nat) (x : BuiltinClient σ σ') : Prop
    extends Holding session? x where
  shut : isShut x.connection x.world = true

/-- Worlds that differ in the events of the journal alone. -/
structure Apart (w w' : Builtin.World σ σ') : Prop where
  faults : w.memory.faults = w'.memory.faults
  batches : w.memory.journal.batches = w'.memory.journal.batches
  postgres : w.postgres = w'.postgres
  mysql : w.mysql = w'.mysql

/-- The same answer, that leaves the same statements in worlds as good as the same. -/
structure SameAnswer (m m' : Response (Builtin.World σ σ') Builtin.Connection Builtin.Statement ι) :
    Prop where
  answer : m.answer = m'.answer
  statements : m.after.statements = m'.after.statements
  world : Apart m.after.world m'.after.world

section Builtin

variable (pg : Postgres.Server σ) (my : Mysql.Server σ')

/-! ### One request -/

lemma preparedIn?_prepare {sql : String} {c : Builtin.Connection} {w : Builtin.World σ σ'}
    {s : Builtin.Statement} (h : ((Builtin.backend pg my).prepare sql c w).result = .ok s) :
    preparedIn? s = mysqlSession? c := by
  cases c with
  | memory c =>
    obtain ⟨_, _, rfl⟩ := embed_ok h
    rfl
  | postgres c =>
    obtain ⟨_, _, rfl⟩ := embed_ok h
    rfl
  | mysql c =>
    obtain ⟨own, hown, rfl⟩ := embed_ok h
    have hsession : own.session = c.session := by
      simp only [Mysql.backend, Mysql.prepare] at hown
      repeat' split at hown
      · cases hown
      · cases hown
      · cases hown
        rfl
    exact congrArg some hsession

lemma mysqlSession?_closeConnection (c : Builtin.Connection) (w : Builtin.World σ σ') :
    mysqlSession? ((Builtin.backend pg my).closeConnection c w).state.1 = mysqlSession? c := by
  cases c with
  | memory c => rfl
  | postgres c => rfl
  | mysql c =>
    simp only [Builtin.backend, Builtin.closeConnection, Mysql.backend, Mysql.closeConnection]
    repeat' split
    all_goals rfl

lemma ask_sessions (c : StatementCall) (s : Builtin.Statement) (w : Builtin.World σ σ') :
    preparedIn? (c.ask (Builtin.backend pg my) s w).state.1 = preparedIn? s ∧
      (c.ask (Builtin.backend pg my) s w).state.2.mysql.sessions = w.mysql.sessions := by
  cases s with
  | memory s =>
    rw [StatementCall.ask_memory]
    exact ⟨rfl, rfl⟩
  | postgres s =>
    rw [StatementCall.ask_postgres]
    exact ⟨rfl, rfl⟩
  | mysql s =>
    have hown : (c.ask (Mysql.backend my) s w.mysql).state.1.session = s.session ∧
        (c.ask (Mysql.backend my) s w.mysql).state.2.sessions = w.mysql.sessions := by
      cases c with
      | bind position p =>
        simp only [StatementCall.ask, Mysql.backend, Mysql.Statement.bind]
        split <;> exact ⟨rfl, rfl⟩
      | addBatch =>
        simp only [StatementCall.ask, Mysql.backend, Mysql.Statement.addBatch]
        split <;> exact ⟨rfl, rfl⟩
      | executeBatch =>
        simp only [StatementCall.ask, Mysql.backend, Mysql.Statement.executeBatch]
        repeat' split
        all_goals exact ⟨rfl, rfl⟩
      | close =>
        simp only [StatementCall.ask, Mysql.backend, Mysql.Statement.close]
        repeat' split
        all_goals exact ⟨rfl, rfl⟩
    rw [StatementCall.ask_mysql]
    exact ⟨congrArg some hown.1, hown.2⟩

/-- A connection is shut when it has been closed with success, and cannot be opened by closing it
once more. A MySQL session is over even if closing it fails. -/
lemma isShut_closeConnection {c : Builtin.Connection} {w : Builtin.World σ σ'}
    (h : isShut c w = true ∨ ((Builtin.backend pg my).closeConnection c w).result = .ok ()) :
    isShut ((Builtin.backend pg my).closeConnection c w).state.1
      ((Builtin.backend pg my).closeConnection c w).state.2 = true := by
  cases c with
  | memory c =>
    simp only [Builtin.backend, Builtin.closeConnection, Memory.backend,
      Memory.closeConnection] at h ⊢
    split
    · rename_i hfault
      rw [if_pos hfault] at h
      rcases h with hshut | hok
      · exact hshut
      · cases hok
    · rfl
  | postgres c => rfl
  | mysql c =>
    simp only [Builtin.backend, Builtin.closeConnection, Mysql.backend, Mysql.closeConnection]
    have hleft : (w.mysql.leave c.session).isOpen c.session = false := by
      simp [Mysql.World.leave, Mysql.World.isOpen]
    split
    · rename_i hshut
      exact hshut
    · split
      · exact congrArg (!·) hleft
      · exact congrArg (!·) hleft

lemma prepare_of_isShut (sql : String) {c : Builtin.Connection} {w : Builtin.World σ σ'}
    (h : isShut c w = true) :
    (Builtin.backend pg my).prepare sql c w = .fail .connectionClosed w := by
  cases c with
  | memory c =>
    have hclosed : c.isClosed = true := h
    simp only [Builtin.backend, Builtin.prepare, Memory.backend, Memory.prepare, hclosed]
    rfl
  | postgres c =>
    have hclosed : c.isClosed = true := h
    simp only [Builtin.backend, Builtin.prepare, Postgres.backend, Postgres.prepare, hclosed]
    rfl
  | mysql c =>
    have hclosed : (!w.mysql.isOpen c.session) = true := h
    simp only [Builtin.backend, Builtin.prepare, Mysql.backend, Mysql.prepare, hclosed]
    rfl

lemma execute_of_isShut {c : Builtin.Connection} {w : Builtin.World σ σ'} (h : isShut c w = true)
    {s : Builtin.Statement} {n : Nat} (hc : mysqlSession? c = some n) (hs : preparedIn? s = some n)
    (hbatch : Builtin.batchLength s ≠ 0) :
    let execution := (Builtin.backend pg my).executeBatch s w
    execution.result = .error .connectionClosed ∧ execution.state.2 = w := by
  cases s with
  | memory s => cases hs
  | postgres s => cases hs
  | mysql s =>
    cases c with
    | memory c => cases hc
    | postgres c => cases hc
    | mysql c =>
      have hsession : s.session = c.session := Option.some.inj (hs.trans hc.symm)
      have hclosed : (!w.mysql.isOpen s.session) = true := by
        rw [hsession]
        exact h
      have hrows : s.batch.toList.isEmpty = false := by
        rw [List.isEmpty_eq_false_iff]
        intro hnil
        exact hbatch (congrArg List.length hnil)
      simp only [Builtin.backend, Builtin.onStatement, Mysql.backend, Mysql.Statement.executeBatch,
        hrows, hclosed]
      exact ⟨rfl, rfl⟩

lemma ask_memory_apart (c : StatementCall) (s : Memory.Statement) {w w' : Memory.World}
    (hfaults : w.faults = w'.faults) (hbatches : w.journal.batches = w'.journal.batches) :
    let reply := c.ask Memory.backend s w
    let reply' := c.ask Memory.backend s w'
    reply.result = reply'.result ∧ reply.state.1 = reply'.state.1 ∧
      reply.state.2.faults = reply'.state.2.faults ∧
      reply.state.2.journal.batches = reply'.state.2.journal.batches := by
  cases c with
  | bind position p =>
    simp only [StatementCall.ask, Memory.backend, Memory.Statement.bind, hfaults]
    repeat' split
    all_goals exact ⟨rfl, rfl, hfaults, hbatches⟩
  | addBatch =>
    simp only [StatementCall.ask, Memory.backend, Memory.Statement.addBatch, hfaults]
    split <;> exact ⟨rfl, rfl, hfaults, hbatches⟩
  | executeBatch =>
    simp only [StatementCall.ask, Memory.backend, Memory.Statement.executeBatch, hfaults]
    split
    · exact ⟨rfl, rfl, hfaults, hbatches⟩
    · exact ⟨rfl, rfl, rfl, congrArg (·.push s.batch.toList) hbatches⟩
  | close =>
    simp only [StatementCall.ask, Memory.backend, Memory.Statement.close, hfaults]
    split <;> exact ⟨rfl, rfl, hfaults, hbatches⟩

lemma Apart.ask {w w' : Builtin.World σ σ'} (h : Apart w w') (c : StatementCall)
    (s : Builtin.Statement) :
    let reply := c.ask (Builtin.backend pg my) s w
    let reply' := c.ask (Builtin.backend pg my) s w'
    reply.result = reply'.result ∧ reply.state.1 = reply'.state.1 ∧
      Apart reply.state.2 reply'.state.2 := by
  cases s with
  | memory s =>
    obtain ⟨hresult, hstatement, hfaults, hbatches⟩ := ask_memory_apart c s h.faults h.batches
    rw [StatementCall.ask_memory, StatementCall.ask_memory]
    exact ⟨hresult, congrArg Builtin.Statement.memory hstatement,
      hfaults, hbatches, h.postgres, h.mysql⟩
  | postgres s =>
    rw [StatementCall.ask_postgres, StatementCall.ask_postgres, h.postgres]
    exact ⟨rfl, rfl, h.faults, h.batches, rfl, h.mysql⟩
  | mysql s =>
    rw [StatementCall.ask_mysql, StatementCall.ask_mysql, h.mysql]
    exact ⟨rfl, rfl, h.faults, h.batches, h.postgres, rfl⟩

lemma apart_closeConnection (c : Builtin.Connection) (w : Builtin.World σ σ')
    (hc : mysqlSession? c = none) :
    Apart ((Builtin.backend pg my).closeConnection c w).state.2 w := by
  cases c with
  | memory c =>
    simp only [Builtin.backend, Builtin.closeConnection, Memory.backend, Memory.closeConnection]
    split <;> exact ⟨rfl, rfl, rfl, rfl⟩
  | postgres c => exact ⟨rfl, rfl, rfl, rfl⟩
  | mysql c => cases hc

/-! ### Any requests -/

variable {act : ι → Builtin.World σ σ' → Builtin.World σ σ'} {session? : Option Nat}

lemma Holding.respond {x : BuiltinClient σ σ'} (h : Holding session? x) (q : Request ι) :
    Holding session? (respond (Builtin.backend pg my) act q x).after := by
  obtain ⟨hconnection, hstatements⟩ := h
  unfold BatchInsert.Proofs.respond
  cases q with
  | prepare sql =>
    dsimp only
    split
    · exact ⟨hconnection, hstatements⟩
    · rename_i s hs
      refine ⟨hconnection, ?_⟩
      intro t ht
      rcases List.mem_append.mp ht with hold | hnew
      · exact hstatements t hold
      · rw [List.mem_singleton.mp hnew]
        exact (preparedIn?_prepare pg my hs).trans hconnection
  | close => exact ⟨(mysqlSession?_closeConnection pg my _ _).trans hconnection, hstatements⟩
  | statement i c =>
    dsimp only
    split
    · exact ⟨hconnection, hstatements⟩
    · rename_i s hs
      refine ⟨hconnection, ?_⟩
      intro t ht
      rcases List.mem_or_eq_of_mem_set ht with hold | rfl
      · exact hstatements t hold
      · exact (ask_sessions pg my c s x.world).1.trans (hstatements s (List.mem_of_getElem? hs))
  | outside i => exact ⟨hconnection, hstatements⟩

lemma isShut_of_isOpen {c : Builtin.Connection} {w w' : Builtin.World σ σ'}
    (h : isShut c w = true)
    (hopen : ∀ n, mysqlSession? c = some n → w'.mysql.isOpen n = true → w.mysql.isOpen n = true) :
    isShut c w' = true := by
  cases c with
  | memory c => exact h
  | postgres c => exact h
  | mysql c =>
    have hshut : (!w.mysql.isOpen c.session) = true := h
    simp only [isShut]
    cases hn : w'.mysql.isOpen c.session with
    | false => rfl
    | true =>
      rw [hopen c.session rfl hn] at hshut
      cases hshut

lemma Disconnected.respond
    (hact : ∀ n, session? = some n →
      ∀ i w, (act i w).mysql.isOpen n = true → w.mysql.isOpen n = true)
    {x : BuiltinClient σ σ'} (h : Disconnected session? x) (q : Request ι) :
    Disconnected session? (respond (Builtin.backend pg my) act q x).after := by
  refine ⟨h.toHolding.respond pg my q, ?_⟩
  cases q with
  | prepare sql =>
    simp only [BatchInsert.Proofs.respond, prepare_of_isShut pg my sql h.shut]
    exact h.shut
  | close => exact isShut_closeConnection pg my (.inl h.shut)
  | statement i c =>
    simp only [BatchInsert.Proofs.respond]
    split
    · exact h.shut
    · rename_i s hs
      have hsessions := (ask_sessions pg my c s x.world).2
      refine isShut_of_isOpen h.shut ?_
      intro n _ hopen
      rw [Mysql.World.isOpen, hsessions] at hopen
      exact hopen
  | outside i =>
    refine isShut_of_isOpen h.shut ?_
    intro n hn
    exact hact n (h.connection.symm.trans hn) i x.world

lemma responses_apart {x x' : BuiltinClient σ σ'} (h : Apart x.world x'.world)
    (hx : x.statements = x'.statements) (calls : List (Nat × StatementCall)) :
    let requests := calls.map fun (i, c) => Request.statement i c
    List.Forall₂ SameAnswer (responses (Builtin.backend pg my) act requests x)
      (responses (Builtin.backend pg my) act requests x') := by
  intro requests
  induction calls generalizing x x' with
  | nil => exact .nil
  | cons call calls ih =>
    have hsame : SameAnswer (respond (Builtin.backend pg my) act (.statement call.1 call.2) x)
        (respond (Builtin.backend pg my) act (.statement call.1 call.2) x') := by
      simp only [respond, hx]
      split
      · exact ⟨rfl, hx, h⟩
      · rename_i s _
        obtain ⟨hresult, hstatement, hworld⟩ := h.ask pg my call.2 s
        exact ⟨congrArg some hresult, congrArg (x'.statements.set call.1) hstatement, hworld⟩
    exact .cons hsame (ih hsame.world hsame.statements)

/-- Once a connection of a built-in backend has been closed with success, all later requests to
prepare a statement are refused, and change nothing. Over MySQL the same goes for executing what is
in the batch of a statement that the connection has prepared, unless others open its session
again. In memory and over PostgreSQL, calls on the statements answer and execute what they would if
the connection were open. -/
theorem closed_connection_effect (c : Builtin.Connection) (w : Builtin.World σ σ')
    (hact : ∀ n, mysqlSession? c = some n →
      ∀ i w, (act i w).mysql.isOpen n = true → w.mysql.isOpen n = true)
    (requests : List (Request ι))
    (past later : List (Response (Builtin.World σ σ') Builtin.Connection Builtin.Statement ι))
    (closing : Response (Builtin.World σ σ') Builtin.Connection Builtin.Statement ι) :
    responses (Builtin.backend pg my) act requests ⟨c, [], w⟩ = past ++ closing :: later →
    closing.request = .close → closing.answer = some (.ok []) →
      (∀ m ∈ later,
        (∀ sql, m.request = .prepare sql →
          m.answer = some (.error .connectionClosed) ∧ m.after = m.before) ∧
        ∀ n i s, mysqlSession? c = some n → m.request = .statement i .executeBatch →
          m.before.statements[i]? = some s → Builtin.batchLength s ≠ 0 →
          m.answer = some (.error .connectionClosed) ∧ m.after.world = m.before.world) ∧
      (mysqlSession? c = none → ∀ calls : List (Nat × StatementCall),
        let made := calls.map fun (i, c) => Request.statement i c
        List.Forall₂ SameAnswer (responses (Builtin.backend pg my) act made closing.after)
          (responses (Builtin.backend pg my) act made closing.before)) := by
  intro hresponses hrequest hanswer
  have hfresh : Holding (mysqlSession? c) (⟨c, [], w⟩ : BuiltinClient σ σ') := by
    refine ⟨rfl, ?_⟩
    intro s hs
    cases hs
  obtain ⟨q, x, hx, rfl, rest, rfl⟩ :=
    responses_split (fun q _ h => h.respond pg my q) hfresh hresponses
  rw [respond_request] at hrequest
  subst hrequest
  have hclosed := closed_of_answer hanswer
  have hafter : Disconnected (mysqlSession? c)
      (respond (Builtin.backend pg my) act .close x).after :=
    ⟨hx.respond pg my .close, isShut_closeConnection pg my (.inr hclosed)⟩
  refine ⟨?_, ?_⟩
  · intro m hm
    obtain ⟨q, y, hy, rfl⟩ := of_mem_responses (fun q _ h => h.respond pg my hact q) hafter hm
    simp only [respond_request, respond_before]
    constructor
    · rintro sql rfl
      simp only [respond, prepare_of_isShut pg my sql hy.shut]
      exact ⟨rfl, rfl⟩
    · rintro n i s hn rfl hs hbatch
      have hconnection : mysqlSession? y.connection = some n := hy.connection.trans hn
      have hstatement : preparedIn? s = some n :=
        (hy.statements s (List.mem_of_getElem? hs)).trans hn
      obtain ⟨hrefused, hworld⟩ := execute_of_isShut pg my hy.shut hconnection hstatement hbatch
      simp only [respond, hs, StatementCall.ask]
      exact ⟨congrArg some hrefused, hworld⟩
  · intro hnone calls
    have hx' : mysqlSession? x.connection = none := hx.connection.trans hnone
    have hapart : Apart (respond (Builtin.backend pg my) act .close x).after.world x.world :=
      apart_closeConnection pg my x.connection x.world hx'
    rw [respond_before]
    exact responses_apart pg my hapart rfl calls

end Builtin

/-- A row is moved into the batch of a statement, the connection is closed, and the batch is
executed. -/
def rowThenClose : List (Request Empty) :=
  [.prepare "INSERT INTO t VALUES (?)", .statement 0 (.bind 1 (.object (.int32 1))),
    .statement 0 .addBatch, .close, .statement 0 .executeBatch]

/-- The row is refused over MySQL. -/
theorem closed_connection_effect_on_row :
    let w : Builtin.World Unit Nat := ⟨.start, (), ⟨0, [0]⟩⟩
    let made := responses (Builtin.backend Postgres.unreachable (tally 1)) nofun rowThenClose
      ⟨.mysql ⟨0⟩, [], w⟩
    ∃ closing execution, made = made.take 3 ++ closing :: [execution] ∧
      closing.request = .close ∧ closing.answer = some (.ok []) ∧
      execution.answer = some (.error .connectionClosed) ∧
      execution.after.world = execution.before.world := by
  intro w made
  have hmade : made = made.take 3 ++ _ :: [_] := rfl
  obtain ⟨hlater, _⟩ := closed_connection_effect Postgres.unreachable (tally 1) (.mysql ⟨0⟩) w
    (fun _ _ i => nomatch i) rowThenClose _ _ _ hmade rfl rfl
  obtain ⟨_, hexecution⟩ := hlater _ List.mem_cons_self
  exact ⟨_, _, hmade, rfl, rfl, hexecution 0 0 _ rfl rfl rfl (by decide)⟩

/-- In memory and over PostgreSQL it is executed, though the connection was closed with success
before. -/
theorem closed_connection_executes_row :
    let b := Builtin.backend (tallyOf [⟨23, "int4"⟩]) Mysql.unreachable
    let w : Builtin.World Nat Unit := ⟨.start, 0, .start ()⟩
    let inMemory := responses b nofun rowThenClose ⟨.memory ⟨false⟩, [], w⟩
    let overPostgres := responses b nofun rowThenClose ⟨.postgres ⟨0, false⟩, [], w⟩
    (inMemory.drop 3).map Response.answer = [some (.ok []), some (.ok [1])] ∧
      (inMemory.getLast?.map fun m => m.after.world.memory.journal.rowsExecuted) = some 1 ∧
      (overPostgres.drop 3).map Response.answer = [some (.ok []), some (.ok [1])] ∧
      (overPostgres.getLast?.map fun m => m.after.world.postgres) = some 1 := by
  intro b w inMemory overPostgres
  exact ⟨rfl, by decide +kernel, rfl, by decide +kernel⟩

end BatchInsert.Proofs
