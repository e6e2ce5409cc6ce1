import BatchInsert.Proofs.Lockstep
import BatchInsert.Proofs.PartialFailure

/-!
# Batches that stop at the first rejected row

MySQL is sent the rows of a batch one after the other, each once the row before it has been
accepted. So the first row that the server rejects is the last one that it is sent. The rows behind
it are gone all the same: whatever is called later on the statement, a row that is sent then has
been moved into the batch since.
-/

namespace BatchInsert.Proofs

open Database (Error Fault)
open Mysql (Datum)

variable {σ : Type}

/-! ### Answers -/

/-- What the server answers to rows that it is sent one after the other, if it is sent all of them
whatever it answers. -/
def rowAnswers (server : Mysql.Server σ) (s : Mysql.Statement) :
    List (List Datum) → σ → List (Except Fault Nat)
  | [], _ => []
  | row :: rows, w =>
    let (answer, w) := server.execute s.session s.sql row w
    answer :: rowAnswers server s rows w

/-- The first of all answers that is not a number of rows. -/
structure FirstRejected (given : List (Except Fault Nat)) (k : Nat) (f : Fault) : Prop where
  here : given[k]? = some (.error f)
  before : ∀ i < k, ∃ count, given[i]? = some (.ok count)

lemma FirstRejected.split {given : List (Except Fault Nat)} {k : Nat} {f : Fault}
    (h : FirstRejected given k f) :
    ∃ (counts : List Nat) (rest : List (Except Fault Nat)),
      given = counts.map .ok ++ .error f :: rest ∧ counts.length = k := by
  induction given generalizing k with
  | nil => cases h.here
  | cons answer given ih =>
    cases k with
    | zero =>
      cases h.here
      exact ⟨[], given, rfl, rfl⟩
    | succ k =>
      obtain ⟨count, hcount⟩ := h.before 0 (Nat.succ_pos k)
      cases hcount
      obtain ⟨counts, rest, rfl, rfl⟩ :=
        ih ⟨h.here, fun i hi => h.before (i + 1) (Nat.succ_lt_succ hi)⟩
      exact ⟨count :: counts, rest, rfl, rfl⟩

/-- How many of the answers are given up to the first rejection, with that one. -/
def reached : List (Except Fault Nat) → Nat
  | [] => 0
  | .ok _ :: given => reached given + 1
  | .error _ :: _ => 1

lemma reached_counts (counts : List Nat) : reached (counts.map .ok) = counts.length := by
  induction counts with
  | nil => rfl
  | cons count counts ih => exact congrArg (· + 1) ih

lemma reached_rejection (counts : List Nat) (f : Fault) (rest : List (Except Fault Nat)) :
    reached (counts.map .ok ++ .error f :: rest) = counts.length + 1 := by
  induction counts with
  | nil => rfl
  | cons count counts ih => exact congrArg (· + 1) ih

/-! ### One execution -/

/-- What a server is sent for rows that it answers. -/
def answered (s : Mysql.Statement) (rows : List (List Datum)) (given : List (Except Fault Nat)) :
    List (SentRow Datum) :=
  (rows.zip given).map fun x => ⟨s.session, s.sql, x.1, x.2⟩

/-- Rows that have been executed up to the first that is rejected. -/
structure Executed (server : Mysql.Server σ) (s : Mysql.Statement) (rows : List (List Datum))
    (w : σ) (noted : List (SentRow Datum)) (result : Except Fault (List Nat))
    (left : σ × List (SentRow Datum)) : Prop where
  recorded : Mysql.Statement.executeRows (recording server) s rows (w, noted) = (result, left)
  plain : Mysql.Statement.executeRows server s rows w = (result, left.1)
  result : result = (rowAnswers server s rows w).mapM id
  sent : left.2 = noted ++
    (answered s rows (rowAnswers server s rows w)).take (reached (rowAnswers server s rows w))

lemma length_rowAnswers (server : Mysql.Server σ) (s : Mysql.Statement) (rows : List (List Datum))
    (w : σ) : (rowAnswers server s rows w).length = rows.length := by
  induction rows generalizing w with
  | nil => rfl
  | cons row rows ih => exact congrArg (· + 1) (ih _)

lemma cells_answered (s : Mysql.Statement) {rows : List (List Datum)}
    {given : List (Except Fault Nat)} (h : given.length = rows.length) :
    (answered s rows given).map SentRow.cells = rows := by
  rw [answered, List.map_map]
  exact List.map_fst_zip h.ge

lemma exists_executed (server : Mysql.Server σ) (s : Mysql.Statement) (rows : List (List Datum))
    (w : σ) (noted : List (SentRow Datum)) :
    ∃ result left, Executed server s rows w noted result left := by
  induction rows generalizing w noted with
  | nil => exact ⟨.ok [], (w, noted), rfl, rfl, rfl, (List.append_nil _).symm⟩
  | cons row rows ih =>
    rcases hanswer : server.execute s.session s.sql row w with ⟨answer, next⟩
    let sent : SentRow Datum := ⟨s.session, s.sql, row, answer⟩
    cases answer with
    | error f =>
      refine ⟨.error f, (next, noted ++ [sent]), ?_, ?_, ?_, ?_⟩
      · simp only [Mysql.Statement.executeRows, recording, hanswer, sent]
      · simp only [Mysql.Statement.executeRows, hanswer]
      · simp only [rowAnswers, hanswer]
        exact mapM_id_cons_error.symm
      · simp only [rowAnswers, hanswer, answered, reached, List.zip_cons_cons, List.map_cons,
          List.take_succ_cons, List.take_zero, sent]
    | ok count =>
      obtain ⟨result, left, h⟩ := ih next (noted ++ [sent])
      refine ⟨result.map (count :: ·), left, ?_, ?_, ?_, ?_⟩
      · have hrest := h.recorded
        unfold recording at hrest ⊢
        simp only [Mysql.Statement.executeRows, hanswer]
        rw [hrest]
      · simp only [Mysql.Statement.executeRows, hanswer, h.plain]
      · simp only [rowAnswers, hanswer, h.result]
        exact mapM_id_cons_ok.symm
      · rw [h.sent, ← List.append_cons]
        simp only [rowAnswers, hanswer, answered, reached, List.zip_cons_cons, List.map_cons,
          List.take_succ_cons, sent]

section Exits

variable (server : Mysql.Server σ) {s : Mysql.Statement}

lemma executeBatch_of_empty (h : s.batch = #[]) (w : Mysql.World σ) :
    (Mysql.backend server).executeBatch s w = .ok [] (s, w) := by
  have hself : ({ s with batch := #[] } : Mysql.Statement) = s := by rw [← h]
  simp only [Mysql.backend, Mysql.Statement.executeBatch, h]
  simp only [hself, List.isEmpty_nil, if_true]

lemma executeBatch_of_closed (h : s.batch ≠ #[]) {w : Mysql.World σ}
    (hclosed : w.isOpen s.session = false) :
    (Mysql.backend server).executeBatch s w =
      .fail .connectionClosed ({ s with batch := #[] }, w) := by
  have hrows : s.batch.toList.isEmpty = false := by
    rw [List.isEmpty_eq_false_iff]
    exact fun hnil => h (Array.toList_eq_nil_iff.mp hnil)
  simp only [Mysql.backend, Mysql.Statement.executeBatch, hrows, hclosed, Bool.false_eq_true,
    Bool.not_false, if_false, if_true]

lemma executeBatch_of_open {w : Mysql.World σ} (hopen : w.isOpen s.session = true) :
    (Mysql.backend server).executeBatch s w =
      let executed := Mysql.Statement.executeRows server s s.batch.toList w.server
      ⟨executed.1.mapError (Fault.rejected s.sql),
        ({ s with batch := #[] }, { w with server := executed.2 }), []⟩ := by
  simp only [Mysql.backend, Mysql.Statement.executeBatch, hopen, Bool.not_true, Bool.false_eq_true,
    if_false]
  split
  · rename_i hrows
    rw [List.isEmpty_iff.mp hrows]
    rfl
  · rcases Mysql.Statement.executeRows server s s.batch.toList w.server with ⟨result, left⟩
    cases result <;> rfl

end Exits

/-- The world with nothing noted so far of what its server is sent. -/
def unheard (w : Mysql.World σ) : Mysql.World (σ × List (SentRow Datum)) :=
  ⟨(w.server, []), w.sessions⟩

/-- The world without what is noted. -/
def unnoted (w : Mysql.World (σ × List (SentRow Datum))) : Mysql.World σ := ⟨w.server.1, w.sessions⟩

section Sending

variable (server : Mysql.Server σ) (s : Mysql.Statement) (w : Mysql.World σ)

/-- The rows that an execution sends, with the answers to them. -/
def sentRows : List (SentRow Datum) :=
  ((Mysql.backend (recording server)).executeBatch s (unheard w)).state.2.server.2

lemma executeBatch_recording :
    (Mysql.backend server).executeBatch s w =
      ((Mysql.backend (recording server)).executeBatch s (unheard w)).mapState
        (through unnoted) := by
  cases hopen : w.isOpen s.session with
  | true =>
    obtain ⟨result, left, h⟩ := exists_executed server s s.batch.toList w.server []
    have hopen' : (unheard w).isOpen s.session = true := hopen
    rw [executeBatch_of_open server hopen, executeBatch_of_open _ hopen', h.plain]
    simp only [unheard, h.recorded]
    rfl
  | false =>
    by_cases hbatch : s.batch = #[]
    · rw [executeBatch_of_empty server hbatch, executeBatch_of_empty _ hbatch]
      rfl
    · have hclosed' : (unheard w).isOpen s.session = false := hopen
      rw [executeBatch_of_closed server hbatch hopen, executeBatch_of_closed _ hbatch hclosed']
      rfl

variable {s w}

lemma sentRows_of_empty (h : s.batch = #[]) : sentRows server s w = [] := by
  rw [sentRows, executeBatch_of_empty _ h]
  rfl

lemma sentRows_of_closed (hclosed : w.isOpen s.session = false) : sentRows server s w = [] := by
  by_cases hbatch : s.batch = #[]
  · exact sentRows_of_empty server hbatch
  · have hclosed' : (unheard w).isOpen s.session = false := hclosed
    rw [sentRows, executeBatch_of_closed _ hbatch hclosed']
    rfl

lemma sentRows_of_open (hopen : w.isOpen s.session = true) :
    let rows := s.batch.toList
    let given := rowAnswers server s rows w.server
    ((Mysql.backend server).executeBatch s w).result = collected s.sql given ∧
      sentRows server s w = (answered s rows given).take (reached given) := by
  obtain ⟨result, left, h⟩ := exists_executed server s s.batch.toList w.server []
  have hopen' : (unheard w).isOpen s.session = true := hopen
  constructor
  · rw [executeBatch_of_open server hopen, h.plain, h.result]
    rfl
  · rw [sentRows, executeBatch_of_open _ hopen']
    simp only [unheard, h.recorded]
    exact h.sent

lemma sentRows_of_rejected (hopen : w.isOpen s.session = true) {k : Nat} {f : Fault}
    (hfirst : FirstRejected (rowAnswers server s s.batch.toList w.server) k f) :
    sentRows server s w =
        (answered s s.batch.toList (rowAnswers server s s.batch.toList w.server)).take (k + 1) ∧
      ((Mysql.backend server).executeBatch s w).result =
        .error (.query f.text (some s.sql) f.chain) := by
  obtain ⟨hresult, hsent⟩ := sentRows_of_open server hopen
  obtain ⟨counts, rest, hgiven, rfl⟩ := hfirst.split
  have hreached : reached (rowAnswers server s s.batch.toList w.server) = counts.length + 1 := by
    rw [hgiven, reached_rejection]
  constructor
  · rw [hsent, hreached]
  · rw [hresult, collected_eq_error_iff]
    exact ⟨counts, f, rest, hgiven, rfl⟩

lemma sentRows_of_counts (hopen : w.isOpen s.session = true) {counts : List Nat}
    (hgiven : rowAnswers server s s.batch.toList w.server = counts.map .ok) :
    sentRows server s w =
        answered s s.batch.toList (rowAnswers server s s.batch.toList w.server) ∧
      ((Mysql.backend server).executeBatch s w).result = .ok counts := by
  obtain ⟨hresult, hsent⟩ := sentRows_of_open server hopen
  constructor
  · rw [hsent, List.take_of_length_le]
    rw [hgiven, reached_counts, answered, List.length_map, List.length_zip, List.length_map]
    exact Nat.min_le_right _ _
  · rw [hresult, collected_eq_ok_iff]
    exact hgiven

lemma sentRows_prefix_batch : (sentRows server s w).map SentRow.cells <+: s.batch.toList := by
  cases hopen : w.isOpen s.session with
  | false =>
    rw [sentRows_of_closed server hopen]
    exact List.nil_prefix
  | true =>
    rw [(sentRows_of_open server hopen).2, List.map_take,
      cells_answered s (length_rowAnswers server s _ _)]
    exact List.take_prefix _ _

end Sending

/-! ### Calls that follow -/

/-- The rows that a call on a statement sends. -/
def rowsSentBy (server : Mysql.Server σ) (s : Mysql.Statement) (c : StatementCall)
    (w : Mysql.World σ) : List (List Datum) :=
  (c.ask (Mysql.backend (recording server)) s (unheard w)).state.2.server.2.map SentRow.cells

/-- The row that a call on a statement moves into its batch, if any. -/
def rowsMovedBy (s : Mysql.Statement) : StatementCall → List (List Datum)
  | .addBatch => s.placeholders.takeRow.toOption.toList.map fun taken => taken.1.map Datum.ofParam
  | .bind _ _ | .executeBatch | .close => []

/-- The rows that calls send, each made in some world on the statement that the ones before
leave. -/
def rowsSentOver (server : Mysql.Server σ) :
    List (StatementCall × Mysql.World σ) → Mysql.Statement → List (List Datum)
  | [], _ => []
  | (c, w) :: calls, s =>
    rowsSentBy server s c w ++ rowsSentOver server calls (c.ask (Mysql.backend server) s w).state.1

/-- The rows that calls move into the batch. -/
def rowsMovedOver (server : Mysql.Server σ) :
    List (StatementCall × Mysql.World σ) → Mysql.Statement → List (List Datum)
  | [], _ => []
  | (c, w) :: calls, s =>
    rowsMovedBy s c ++ rowsMovedOver server calls (c.ask (Mysql.backend server) s w).state.1

section Calls

variable (server : Mysql.Server σ)

lemma sent_sublist_step (s : Mysql.Statement) (c : StatementCall) (w : Mysql.World σ) :
    (rowsSentBy server s c w ++ (c.ask (Mysql.backend server) s w).state.1.batch.toList).Sublist
      (s.batch.toList ++ rowsMovedBy s c) := by
  cases c with
  | bind position p =>
    simp only [rowsSentBy, rowsMovedBy, StatementCall.ask, uncounted, Mysql.backend,
      Mysql.Statement.bind, List.append_nil]
    split <;> exact List.Sublist.refl _
  | addBatch =>
    simp only [rowsSentBy, rowsMovedBy, StatementCall.ask, uncounted, Mysql.backend,
      Mysql.Statement.addBatch]
    cases s.placeholders.takeRow with
    | error e => exact List.sublist_append_left _ _
    | ok taken =>
      simp only [Database.Reply.ok, unheard, List.map_nil, List.nil_append, Array.toList_push]
      exact List.Sublist.refl _
  | executeBatch =>
    simp only [rowsMovedBy, StatementCall.ask, executeBatch_mysql, List.append_nil]
    exact (sentRows_prefix_batch server).sublist
  | close =>
    have hsent : rowsSentBy server s .close w = [] := by
      simp only [rowsSentBy, StatementCall.ask, uncounted, Mysql.backend, Mysql.Statement.close,
        recording, unheard]
      split
      · rfl
      · rcases server.discard s.session s.sql w.server with ⟨result, left⟩
        cases result <;> rfl
    have hleft : ((Mysql.backend server).closeStatement s w).state.1.batch = #[] := by
      simp only [Mysql.backend, Mysql.Statement.close]
      repeat' split
      all_goals rfl
    simp only [hsent, StatementCall.ask, uncounted, hleft]
    exact List.nil_sublist _

lemma sent_sublist (calls : List (StatementCall × Mysql.World σ)) (s : Mysql.Statement) :
    (rowsSentOver server calls s).Sublist (s.batch.toList ++ rowsMovedOver server calls s) := by
  induction calls generalizing s with
  | nil => exact List.nil_sublist _
  | cons call calls ih =>
    obtain ⟨c, w⟩ := call
    have hrest := (ih (c.ask (Mysql.backend server) s w).state.1).append_left
      (rowsSentBy server s c w)
    rw [← List.append_assoc] at hrest
    rw [rowsSentOver, rowsMovedOver, ← List.append_assoc]
    exact hrest.trans ((sent_sublist_step server s c w).append_right _)

end Calls

/-! ### Batches -/

/-- Where the session is open, the rows of a batch are sent up to the first that the server rejects,
whose error is that of the batch, and all of them if it rejects none. Where the session is closed,
nothing is sent, and a batch is refused unless it is empty. The batch is empty afterwards in any
case, and whatever is then called on the statement, every row that is sent has been moved into the
batch by one of these calls. -/
theorem batch_up_to_rejection (server : Mysql.Server σ) (s : Mysql.Statement) (w : Mysql.World σ) :
    let rows := s.batch.toList
    let given := rowAnswers server s rows w.server
    let reply := (Mysql.backend server).executeBatch s w
    let sent := sentRows server s w
    reply = ((Mysql.backend (recording server)).executeBatch s (unheard w)).mapState
      (through unnoted) ∧
    given.length = rows.length ∧
    (w.isOpen s.session = true →
      (∀ k f, FirstRejected given k f → sent = (answered s rows given).take (k + 1) ∧
        reply.result = .error (.query f.text (some s.sql) f.chain)) ∧
      ∀ counts : List Nat, given = counts.map .ok →
        sent = answered s rows given ∧ reply.result = .ok counts) ∧
    (w.isOpen s.session = false → sent = [] ∧
      (rows ≠ [] → reply.result = .error (.connection "connection is closed" [])) ∧
      (rows = [] → reply.result = .ok [])) ∧
    reply.state.1 = { s with batch := #[] } ∧
    (Mysql.backend server).batchLength reply.state.1 = 0 ∧
    ∀ calls : List (StatementCall × Mysql.World σ),
      (rowsSentOver server calls reply.state.1).Sublist
        (rowsMovedOver server calls reply.state.1) := by
  intro rows given reply sent
  have hlength : given.length = rows.length := length_rowAnswers server s rows w.server
  have hstate : reply.state.1 = { s with batch := #[] } := executeBatch_mysql server s w
  refine ⟨executeBatch_recording server s w, hlength, ?_, ?_, hstate, ?_, ?_⟩
  · intro hopen
    exact ⟨fun k f hfirst => sentRows_of_rejected server hopen hfirst,
      fun counts hgiven => sentRows_of_counts server hopen hgiven⟩
  · intro hclosed
    refine ⟨sentRows_of_closed server hclosed, ?_, ?_⟩
    · intro hrows
      have hbatch : s.batch ≠ #[] := fun hempty => hrows (congrArg Array.toList hempty)
      exact congrArg Database.Reply.result (executeBatch_of_closed server hbatch hclosed)
    · intro hrows
      have hbatch : s.batch = #[] := Array.toList_eq_nil_iff.mp hrows
      exact congrArg Database.Reply.result (executeBatch_of_empty server hbatch w)
  · rw [hstate]
    rfl
  · intro calls
    rw [hstate]
    exact sent_sublist server calls _

/-- A server that counts the rows it is sent and rejects the one with the number `k`. -/
def rejecting (k : Nat) : Mysql.Server Nat :=
  { (tally 1 : Mysql.Server Nat) with
    execute := fun _ _ _ n => (if n = k then .error ⟨"Duplicate entry", []⟩ else .ok 1, n + 1) }

/-- The second of three rows is rejected. The third is never sent, also not by the next execution,
which sends the row that is moved before it. -/
theorem batch_up_to_rejection_of_second :
    let s : Mysql.Statement := ⟨0, .fresh "INSERT INTO t VALUES (?)" 1,
      #[[.integer 1], [.integer 2], [.integer 3]]⟩
    let w : Mysql.World Nat := ⟨0, [0]⟩
    let reply := (Mysql.backend (rejecting 1)).executeBatch s w
    let calls : List (StatementCall × Mysql.World Nat) :=
      [(.bind 1 (.object (.int64 4)), w), (.addBatch, w), (.executeBatch, w)]
    w.isOpen s.session = true ∧
      FirstRejected (rowAnswers (rejecting 1) s s.batch.toList w.server) 1 ⟨"Duplicate entry", []⟩ ∧
      (sentRows (rejecting 1) s w).map SentRow.cells = [[.integer 1], [.integer 2]] ∧
      reply.result = .error (.query "Duplicate entry" (some s.sql) ["Duplicate entry"]) ∧
      rowsSentOver (rejecting 1) calls reply.state.1 = [[.integer 4]] ∧
      (rowsSentOver (rejecting 1) calls reply.state.1).Sublist
        (rowsMovedOver (rejecting 1) calls reply.state.1) := by
  intro s w reply calls
  obtain ⟨_, _, hopen, _, _, _, hlater⟩ := batch_up_to_rejection (rejecting 1) s w
  have hsession : w.isOpen s.session = true := rfl
  have hfirst : FirstRejected (rowAnswers (rejecting 1) s s.batch.toList w.server) 1
      ⟨"Duplicate entry", []⟩ := by
    refine ⟨rfl, ?_⟩
    intro i hi
    obtain rfl : i = 0 := by omega
    exact ⟨1, rfl⟩
  obtain ⟨hsent, hresult⟩ := (hopen hsession).1 1 _ hfirst
  refine ⟨hsession, hfirst, ?_, hresult, rfl, hlater calls⟩
  rw [hsent]
  rfl

/-- A statement is prepared, its connection is closed, and its batch is executed while it is
empty. -/
def emptyBatchAfterClose : List (Request Empty) :=
  [.prepare "INSERT INTO t VALUES (?)", .close, .statement 0 .executeBatch]

/-- The execution does not fail, although the session is over. -/
theorem empty_batch_of_closed_connection :
    let made := responses (Mysql.backend (tally 1)) nofun emptyBatchAfterClose
      ⟨⟨0⟩, [], (⟨0, [0]⟩ : Mysql.World Nat)⟩
    made.map Response.answer = [some (.ok []), some (.ok []), some (.ok [])] ∧
      (made.getLast?.map fun m => m.before.world.isOpen 0) = some false := by
  intro made
  exact ⟨rfl, rfl⟩

end BatchInsert.Proofs
