import BatchInsert.Proofs.Statements

/-!
# Clients of a connection

Whoever holds a connection holds the statements that it has prepared, and makes requests of either
in any order. Others may change the world in between. A response keeps the request with the client
that made it, what was answered, and the client after it.
-/

namespace BatchInsert.Proofs

open Database (Backend Error Reply)

variable {ω κ τ ι σ σ' : Type}

/-- A call on a statement. -/
inductive StatementCall
  | bind (position : Nat) (p : Sql.Param)
  | addBatch
  | executeBatch
  | close

/-- A reply that counts no rows. -/
def uncounted {α : Type} (r : Reply Error α Unit) : Reply Error α (List Nat) :=
  ⟨r.result.map fun _ => [], r.state, r.log⟩

namespace StatementCall

def ask (b : Backend ω κ τ) : StatementCall → τ → ω → Reply Error (τ × ω) (List Nat)
  | bind position p, s, w => uncounted (b.bind position p s w)
  | addBatch, s, w => uncounted (b.addBatch s w)
  | executeBatch, s, w => b.executeBatch s w
  | close, s, w => uncounted (b.closeStatement s w)

variable (pg : Postgres.Server σ) (my : Mysql.Server σ') (c : StatementCall)
  (w : Builtin.World σ σ')

lemma ask_memory (s : Memory.Statement) :
    c.ask (Builtin.backend pg my) (.memory s) w =
      (c.ask Memory.backend s w.memory).mapState fun left =>
        (.memory left.1, w.withMemory left.2) := by
  cases c <;> rfl

lemma ask_postgres (s : Postgres.Statement) :
    c.ask (Builtin.backend pg my) (.postgres s) w =
      (c.ask (Postgres.backend pg) s w.postgres).mapState fun left =>
        (.postgres left.1, w.withPostgres left.2) := by
  cases c <;> rfl

lemma ask_mysql (s : Mysql.Statement) :
    c.ask (Builtin.backend pg my) (.mysql s) w =
      (c.ask (Mysql.backend my) s w.mysql).mapState fun left =>
        (.mysql left.1, w.withMysql left.2) := by
  cases c <;> rfl

end StatementCall

/-! ### Requests -/

/-- A connection and the statements that it has prepared, in their order. -/
structure Client (ω κ τ : Type) where
  connection : κ
  statements : List τ
  world : ω

inductive Request (ι : Type)
  | prepare (sql : String)
  | close
  /-- A call on the statement at an index. -/
  | statement (i : Nat) (c : StatementCall)
  /-- A change of the world that the client has no part in. -/
  | outside (i : ι)

structure Response (ω κ τ ι : Type) where
  request : Request ι
  before : Client ω κ τ
  /-- Nothing, where there is no such statement. -/
  answer : Option (Except Error (List Nat))
  after : Client ω κ τ

section Responses

variable (b : Backend ω κ τ) (act : ι → ω → ω)

def respond (q : Request ι) (x : Client ω κ τ) : Response ω κ τ ι :=
  match q with
  | .prepare sql =>
    let reply := b.prepare sql x.connection x.world
    match reply.result with
    | .error e => ⟨q, x, some (.error e), { x with world := reply.state }⟩
    | .ok s => ⟨q, x, some (.ok []), ⟨x.connection, x.statements ++ [s], reply.state⟩⟩
  | .close =>
    let reply := b.closeConnection x.connection x.world
    ⟨q, x, some (uncounted reply).result, ⟨reply.state.1, x.statements, reply.state.2⟩⟩
  | .statement i c =>
    match x.statements[i]? with
    | none => ⟨q, x, none, x⟩
    | some s =>
      let reply := c.ask b s x.world
      ⟨q, x, some reply.result, ⟨x.connection, x.statements.set i reply.state.1, reply.state.2⟩⟩
  | .outside i => ⟨q, x, none, { x with world := act i x.world }⟩

/-- The responses to requests that are made one after the other. -/
def responses : List (Request ι) → Client ω κ τ → List (Response ω κ τ ι)
  | [], _ => []
  | q :: requests, x => respond b act q x :: responses requests (respond b act q x).after

@[simp] lemma respond_request (q : Request ι) (x : Client ω κ τ) :
    (respond b act q x).request = q := by
  unfold respond
  cases q with
  | prepare sql =>
    dsimp only
    split <;> rfl
  | close => rfl
  | statement i c =>
    dsimp only
    split <;> rfl
  | outside i => rfl

@[simp] lemma respond_before (q : Request ι) (x : Client ω κ τ) :
    (respond b act q x).before = x := by
  unfold respond
  cases q with
  | prepare sql =>
    dsimp only
    split <;> rfl
  | close => rfl
  | statement i c =>
    dsimp only
    split <;> rfl
  | outside i => rfl

variable {b act} {P : Client ω κ τ → Prop} {x : Client ω κ τ}

/-- A response is that to one of the requests, from a client of which holds what all requests keep.
The responses that follow are those to the requests that are left. -/
lemma responses_split (hkeep : ∀ q x, P x → P (respond b act q x).after)
    {requests : List (Request ι)} (hx : P x) {past later : List (Response ω κ τ ι)}
    {m : Response ω κ τ ι} (h : responses b act requests x = past ++ m :: later) :
    ∃ q y, P y ∧ m = respond b act q y ∧ ∃ rest, later = responses b act rest m.after := by
  induction past generalizing requests x with
  | nil =>
    cases requests with
    | nil => cases h
    | cons q requests =>
      obtain ⟨rfl, rfl⟩ := List.cons.inj h
      exact ⟨q, x, hx, rfl, requests, rfl⟩
  | cons _ past ih =>
    cases requests with
    | nil => cases h
    | cons q requests => exact ih (hkeep q x hx) (List.cons.inj h).2

lemma of_mem_responses (hkeep : ∀ q x, P x → P (respond b act q x).after)
    {requests : List (Request ι)} (hx : P x) {m : Response ω κ τ ι}
    (hm : m ∈ responses b act requests x) : ∃ q y, P y ∧ m = respond b act q y := by
  obtain ⟨past, later, h⟩ := List.append_of_mem hm
  obtain ⟨q, y, hy, hself, _⟩ := responses_split hkeep hx h
  exact ⟨q, y, hy, hself⟩

lemma closed_of_answer (h : (respond b act .close x).answer = some (.ok [])) :
    (b.closeConnection x.connection x.world).result = .ok () := by
  simp only [respond, uncounted, Option.some.injEq] at h
  cases hr : (b.closeConnection x.connection x.world).result with
  | error e =>
    rw [hr] at h
    cases h
  | ok _ => rfl

end Responses

/-- A server that takes everything, describes every statement alike, counts the rows, and needs a
second for each. -/
def tally {ο π α : Type} (described : π) : Database.Server Nat ο π α where
  login _ n := (.ok 0, n)
  prepare _ _ n := (.ok described, n)
  execute _ _ _ n := (.ok 1, n + 1)
  discard _ _ n := (.ok (), n)
  logout _ n := (.ok (), n)
  executionTime _ _ rows _ := ⟨rows, 0⟩

/-- Such a server for PostgreSQL, whose statements have parameters of the given types. -/
def tallyOf (types : List Postgres.ServerType) : Postgres.Server Nat :=
  ⟨tally ⟨"s0", types⟩, .plain⟩

end BatchInsert.Proofs
