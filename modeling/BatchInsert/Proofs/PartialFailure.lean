import BatchInsert.Proofs.Client
import BatchInsert.Proofs.Simulation

/-!
# Batches of which some rows fail

PostgreSQL is sent the rows of a batch one behind the other. A row is held back if no message can be
made of it: for one of its parameters that cannot be sent as the type that it has at the server, or
for its length. All others are sent, whatever comes of the rows before. The batch succeeds if every
row does, and fails for the first that does not.
-/

namespace BatchInsert.Proofs

open Database (Error Fault Server)
open Memory (Row)
open Postgres (Argument Library ServerType)
open Sql (Param)

variable {σ ο π α ε : Type}

/-! ### What a server is sent -/

/-- A row that a server was sent for a statement, and what it answered. -/
structure SentRow (α : Type) where
  session : Nat
  sql : String
  cells : List α
  answer : Except Fault Nat

/-- The server with every row noted that it is sent, and its answer. -/
def recording (server : Server σ ο π α) : Server (σ × List (SentRow α)) ο π α where
  login o w := Prod.map id (·, w.2) (server.login o w.1)
  prepare session sql w := Prod.map id (·, w.2) (server.prepare session sql w.1)
  execute session sql cells w :=
    let (answer, next) := server.execute session sql cells w.1
    (answer, next, w.2 ++ [⟨session, sql, cells, answer⟩])
  discard session sql w := Prod.map id (·, w.2) (server.discard session sql w.1)
  logout session w := Prod.map id (·, w.2) (server.logout session w.1)
  executionTime session sql rows w := server.executionTime session sql rows w.1

/-- A PostgreSQL server with every row noted, behind the same client library. -/
def recordingRows (server : Postgres.Server σ) :
    Postgres.Server (σ × List (SentRow (Option (List UInt8)))) :=
  ⟨recording server.toServer, server.library⟩

/-! ### Rows that can be sent -/

/-- A parameter is sent as a type if that takes it and it is not too long. -/
def isSent (t : ServerType) (p : Param) : Bool :=
  (Argument.ofParam p).accepts t && (Argument.ofParam p).fits t

/-- The row in its binary form. -/
def rowCells (types : List ServerType) (row : Row) : List (Option (List UInt8)) :=
  (types.zip row).map fun (t, p) => (Argument.ofParam p).cell t

/-- There is a parameter for each type, a message has room for so many, all of them are sent, and
the message is not too long. -/
structure IsSendable (library : Library) (name : String) (types : List ServerType) (row : Row) :
    Prop where
  width : row.length = types.length
  room : row.length ≤ library.maxParameters
  sent : ∀ x ∈ types.zip row, isSent x.1 x.2 = true
  length : Postgres.messageLength name (rowCells types row) < 2 ^ 31

instance (library : Library) (name : String) (types : List ServerType) (row : Row) :
    Decidable (IsSendable library name types row) :=
  decidable_of_iff
    (row.length = types.length ∧ row.length ≤ library.maxParameters ∧
      (∀ x ∈ types.zip row, isSent x.1 x.2 = true) ∧
        Postgres.messageLength name (rowCells types row) < 2 ^ 31)
    ⟨fun h => ⟨h.1, h.2.1, h.2.2.1, h.2.2.2⟩, fun h => ⟨h.width, h.room, h.sent, h.length⟩⟩

/-- The first parameter of a row that cannot be sent. -/
structure FirstUnsent (types : List ServerType) (row : Row) (i : Nat) (t : ServerType)
    (p : Param) : Prop where
  here : (types.zip row)[i]? = some (t, p)
  unsent : isSent t p = false
  before : ∀ j < i, ∀ u q, (types.zip row)[j]? = some (u, q) → isSent u q = true

/-- Why a row is held back, in the order in which a message is made. -/
inductive HeldBack (library : Library) (name : String) (types : List ServerType) (row : Row) :
    Fault → Prop
  | width (h : row.length ≠ types.length) :
      HeldBack library name types row (Postgres.miscounted types.length row.length)
  | room (hwidth : row.length = types.length) (h : library.maxParameters < row.length) :
      HeldBack library name types row Postgres.tooLong
  | type {i : Nat} {t : ServerType} {p : Param} (hwidth : row.length = types.length)
      (hroom : row.length ≤ library.maxParameters) (h : FirstUnsent types row i t p)
      (ht : (Argument.ofParam p).accepts t = false) :
      HeldBack library name types row (Postgres.unfit i (library.misfit t (Argument.ofParam p)))
  | parameter {i : Nat} {t : ServerType} {p : Param} (hwidth : row.length = types.length)
      (hroom : row.length ≤ library.maxParameters) (h : FirstUnsent types row i t p)
      (ht : (Argument.ofParam p).accepts t = true) :
      HeldBack library name types row Postgres.tooLong
  | message (hwidth : row.length = types.length) (hroom : row.length ≤ library.maxParameters)
      (hsent : ∀ x ∈ types.zip row, isSent x.1 x.2 = true)
      (h : 2 ^ 31 ≤ Postgres.messageLength name (rowCells types row)) :
      HeldBack library name types row Postgres.tooLong

section Cells

variable {library : Library} {types : List ServerType} {row : Row}

lemma cells_of_sent (index : Nat) (h : ∀ x ∈ types.zip row, isSent x.1 x.2 = true) :
    Postgres.cells library index types (row.map Argument.ofParam) = .ok (rowCells types row) := by
  induction types generalizing index row with
  | nil => rfl
  | cons t types ih =>
    cases row with
    | nil => rfl
    | cons p row =>
      rw [List.zip_cons_cons, List.forall_mem_cons] at h
      obtain ⟨hp, hrest⟩ := h
      unfold isSent at hp
      rw [Bool.and_eq_true] at hp
      simp only [List.map_cons, Postgres.cells, hp.1, hp.2, Bool.not_true, Bool.false_eq_true,
        if_false, ih (index + 1) hrest]
      rfl

variable (library) in
lemma cells_of_unsent (index : Nat) (h : ¬ ∀ x ∈ types.zip row, isSent x.1 x.2 = true) :
    ∃ i t p, FirstUnsent types row i t p ∧
      Postgres.cells library index types (row.map Argument.ofParam) =
        .error (if (Argument.ofParam p).accepts t then Postgres.tooLong
          else Postgres.unfit (index + i) (library.misfit t (Argument.ofParam p))) := by
  induction types generalizing index row with
  | nil => exact absurd (List.forall_mem_nil _) h
  | cons t types ih =>
    cases row with
    | nil => exact absurd (List.forall_mem_nil _) h
    | cons p row =>
      by_cases hp : isSent t p = true
      · rw [List.zip_cons_cons, List.forall_mem_cons, not_and] at h
        obtain ⟨i, u, q, hfirst, hcells⟩ := ih (index + 1) (h hp)
        refine ⟨i + 1, u, q, ⟨hfirst.here, hfirst.unsent, ?_⟩, ?_⟩
        · intro j hj u' q' hj'
          cases j with
          | zero =>
            cases hj'
            exact hp
          | succ j => exact hfirst.before j (by omega) u' q' hj'
        · have hshift : index + (i + 1) = index + 1 + i := by omega
          unfold isSent at hp
          rw [Bool.and_eq_true] at hp
          simp only [List.map_cons, Postgres.cells, hp.1, hp.2, Bool.not_true, Bool.false_eq_true,
            if_false, hcells, hshift]
          rfl
      · have hunsent : isSent t p = false := eq_false_of_ne_true hp
        refine ⟨0, t, p, ⟨rfl, hunsent, by omega⟩, ?_⟩
        unfold isSent at hunsent
        simp only [List.map_cons, Postgres.cells]
        cases haccepts : (Argument.ofParam p).accepts t with
        | false => rfl
        | true =>
          rw [haccepts, Bool.true_and] at hunsent
          simp only [hunsent, Bool.not_true, Bool.not_false, Bool.false_eq_true, if_false, if_true]

variable {name : String}

lemma message_of_room (hwidth : row.length = types.length)
    (hroom : row.length ≤ library.maxParameters) :
    Postgres.message library name types (row.map Argument.ofParam) =
      (Postgres.cells library 0 types (row.map Argument.ofParam)).bind fun cells =>
        if Postgres.messageLength name cells < 2 ^ 31 then .ok cells
        else .error Postgres.tooLong := by
  unfold Postgres.message
  rw [List.length_map, if_neg (not_not.mpr hwidth), if_neg (Nat.not_lt.mpr hroom)]

lemma message_of_sendable (h : IsSendable library name types row) :
    Postgres.message library name types (row.map Argument.ofParam) = .ok (rowCells types row) := by
  rw [message_of_room h.width h.room, cells_of_sent 0 h.sent, Except.bind, if_pos h.length]

/-- A row that is not sent is held back by the first check that it does not pass. -/
lemma message_of_heldBack (h : ¬ IsSendable library name types row) :
    ∃ f, HeldBack library name types row f ∧
      Postgres.message library name types (row.map Argument.ofParam) = .error f := by
  by_cases hwidth : row.length = types.length
  · by_cases hroom : row.length ≤ library.maxParameters
    · rw [message_of_room hwidth hroom]
      by_cases hsent : ∀ x ∈ types.zip row, isSent x.1 x.2 = true
      · have hlength : ¬ Postgres.messageLength name (rowCells types row) < 2 ^ 31 :=
          fun hlength => h ⟨hwidth, hroom, hsent, hlength⟩
        refine ⟨_, .message hwidth hroom hsent (Nat.not_lt.mp hlength), ?_⟩
        rw [cells_of_sent 0 hsent, Except.bind, if_neg hlength]
      · obtain ⟨i, t, p, hfirst, hcells⟩ := cells_of_unsent library 0 hsent
        rw [Nat.zero_add] at hcells
        rw [hcells, Except.bind]
        cases haccepts : (Argument.ofParam p).accepts t with
        | false => exact ⟨_, .type hwidth hroom hfirst haccepts, rfl⟩
        | true => exact ⟨_, .parameter hwidth hroom hfirst haccepts, rfl⟩
    · refine ⟨_, .room hwidth (Nat.not_le.mp hroom), ?_⟩
      unfold Postgres.message
      rw [List.length_map, if_neg (not_not.mpr hwidth), if_pos (Nat.not_le.mp hroom)]
  · refine ⟨_, .width hwidth, ?_⟩
    unfold Postgres.message
    rw [List.length_map, if_pos hwidth]

end Cells

/-! ### All rows -/

/-- Whether a row can be sent for a statement. -/
abbrev CanSend (server : Postgres.Server σ) (s : Postgres.Statement) (row : Row) : Prop :=
  IsSendable server.library s.name s.types row

/-- What a server is sent for a row with an outcome: nothing if the row is held back. -/
def sentRow? (server : Postgres.Server σ) (s : Postgres.Statement) (x : Row × Except Fault Nat) :
    Option (SentRow (Option (List UInt8))) :=
  if CanSend server s x.1 then some ⟨s.session, s.sql, rowCells s.types x.1, x.2⟩ else none

/-- The rows of a batch with their outcomes. -/
structure Handled (server : Postgres.Server σ) (s : Postgres.Statement) (rows : List Row) (w : σ)
    (noted : List (SentRow (Option (List UInt8)))) (outcomes : List (Except Fault Nat))
    (left : σ × List (SentRow (Option (List UInt8)))) : Prop where
  recorded :
    Postgres.Statement.executeRows (recordingRows server) s rows (w, noted) = (outcomes, left)
  plain : Postgres.Statement.executeRows server s rows w = (outcomes, left.1)
  length : outcomes.length = rows.length
  sent : left.2 = noted ++ (rows.zip outcomes).filterMap (sentRow? server s)
  heldBack : ∀ x ∈ rows.zip outcomes, ¬ CanSend server s x.1 →
    ∃ f, HeldBack server.library s.name s.types x.1 f ∧ x.2 = .error f

lemma exists_handled (server : Postgres.Server σ) (s : Postgres.Statement) (rows : List Row) (w : σ)
    (noted : List (SentRow (Option (List UInt8)))) :
    ∃ outcomes left, Handled server s rows w noted outcomes left := by
  induction rows generalizing w noted with
  | nil => exact ⟨[], (w, noted), rfl, rfl, rfl, (List.append_nil _).symm, List.forall_mem_nil _⟩
  | cons row rows ih =>
    by_cases hsend : CanSend server s row
    · have hmessage := message_of_sendable hsend
      rcases hanswer : server.execute s.session s.sql (rowCells s.types row) w with ⟨answer, next⟩
      let sent : SentRow (Option (List UInt8)) :=
        ⟨s.session, s.sql, rowCells s.types row, answer⟩
      have hrow : Postgres.Statement.executeRow server s row w = (answer, next) := by
        rw [Postgres.Statement.executeRow, hmessage, ← hanswer]
      have hrecorded : Postgres.Statement.executeRow (recordingRows server) s row (w, noted) =
          (answer, next, noted ++ [sent]) := by
        simp only [Postgres.Statement.executeRow, recordingRows, recording, hmessage, hanswer, sent]
      obtain ⟨outcomes, left, h⟩ := ih next (noted ++ [sent])
      refine ⟨answer :: outcomes, left, ?_, ?_, ?_, ?_, ?_⟩
      · simp only [Postgres.Statement.executeRows, hrecorded, h.recorded]
      · simp only [Postgres.Statement.executeRows, hrow, h.plain]
      · rw [List.length_cons, List.length_cons, h.length]
      · have hsome : sentRow? server s (row, answer) = some sent := if_pos hsend
        rw [List.zip_cons_cons, List.filterMap_cons_some hsome, List.append_cons]
        exact h.sent
      · rw [List.zip_cons_cons, List.forall_mem_cons]
        exact ⟨fun hheld => absurd hsend hheld, h.heldBack⟩
    · obtain ⟨f, hf, hmessage⟩ := message_of_heldBack hsend
      have hrow : Postgres.Statement.executeRow server s row w = (.error f, w) := by
        rw [Postgres.Statement.executeRow, hmessage]
      have hrecorded : Postgres.Statement.executeRow (recordingRows server) s row (w, noted) =
          (.error f, w, noted) := by
        simp only [Postgres.Statement.executeRow, recordingRows, hmessage]
      obtain ⟨outcomes, left, h⟩ := ih w noted
      refine ⟨.error f :: outcomes, left, ?_, ?_, ?_, ?_, ?_⟩
      · simp only [Postgres.Statement.executeRows, hrecorded, h.recorded]
      · simp only [Postgres.Statement.executeRows, hrow, h.plain]
      · rw [List.length_cons, List.length_cons, h.length]
      · have hnone : sentRow? server s (row, .error f) = none := if_neg hsend
        rw [List.zip_cons_cons, List.filterMap_cons_none hnone]
        exact h.sent
      · rw [List.zip_cons_cons, List.forall_mem_cons]
        exact ⟨fun _ => ⟨f, hf, rfl⟩, h.heldBack⟩

/-! ### The result of a batch -/

section Collect

variable {results : List (Except ε α)} {a : α} {e : ε}

lemma mapM_id_cons_ok : (.ok a :: results).mapM id = (results.mapM id).map (a :: ·) := by
  rw [List.mapM_cons]
  cases results.mapM id <;> rfl

lemma mapM_id_cons_error : (.error e :: results).mapM id = .error e := by
  rw [List.mapM_cons]
  rfl

lemma mapM_id_eq_ok_iff {values : List α} :
    results.mapM id = .ok values ↔ results = values.map .ok := by
  induction results generalizing values with
  | nil => cases values <;> simp [pure, Except.pure]
  | cons result results ih =>
    cases result with
    | error e =>
      rw [mapM_id_cons_error]
      cases values <;> simp
    | ok a =>
      rw [mapM_id_cons_ok]
      cases values with
      | nil => cases results.mapM id <;> simp [Except.map]
      | cons value values =>
        rw [List.map_cons, List.cons.injEq, ← ih]
        cases results.mapM id <;> simp [Except.map]

lemma mapM_id_eq_error_iff : results.mapM id = .error e ↔
    ∃ (values : List α) (rest : List (Except ε α)),
      results = values.map .ok ++ .error e :: rest := by
  induction results with
  | nil => simp [pure, Except.pure]
  | cons result results ih =>
    cases result with
    | error e' =>
      rw [mapM_id_cons_error]
      constructor
      · rintro ⟨⟩
        exact ⟨[], results, rfl⟩
      · rintro ⟨values, rest, h⟩
        cases values with
        | nil =>
          cases h
          rfl
        | cons value values => cases h
    | ok a =>
      have hmap : (results.mapM id).map (a :: ·) = .error e ↔ results.mapM id = .error e := by
        cases results.mapM id <;> simp [Except.map]
      rw [mapM_id_cons_ok, hmap, ih]
      constructor
      · rintro ⟨values, rest, rfl⟩
        exact ⟨a :: values, rest, rfl⟩
      · rintro ⟨values, rest, h⟩
        cases values with
        | nil => cases h
        | cons value values =>
          rw [List.map_cons, List.cons_append, List.cons.injEq] at h
          exact ⟨values, rest, h.2⟩

end Collect

/-- The result of a batch from the outcomes of its rows. -/
def collected (sql : String) (outcomes : List (Except Fault Nat)) : Except Error (List Nat) :=
  (outcomes.mapM id).mapError (Fault.rejected sql)

section Collected

variable {sql : String} {outcomes : List (Except Fault Nat)}

lemma collected_eq_ok_iff {counts : List Nat} :
    collected sql outcomes = .ok counts ↔ outcomes = counts.map .ok := by
  rw [← mapM_id_eq_ok_iff]
  unfold collected
  cases outcomes.mapM id <;> simp [Except.mapError]

lemma collected_eq_error_iff {e : Error} : collected sql outcomes = .error e ↔
    ∃ (counts : List Nat) (f : Fault) (rest : List (Except Fault Nat)),
      outcomes = counts.map .ok ++ .error f :: rest ∧ e = f.rejected sql := by
  unfold collected
  constructor
  · intro he
    cases hcollected : outcomes.mapM id with
    | ok counts =>
      rw [hcollected] at he
      cases he
    | error f =>
      rw [hcollected] at he
      obtain ⟨counts, rest, hfirst⟩ := mapM_id_eq_error_iff.mp hcollected
      exact ⟨counts, f, rest, hfirst, (Except.error.inj he).symm⟩
  · rintro ⟨counts, f, rest, hfirst, rfl⟩
    rw [mapM_id_eq_error_iff.mpr ⟨counts, rest, hfirst⟩]
    rfl

end Collected

lemma executeBatch_eq (server : Postgres.Server σ) (s : Postgres.Statement) (w : σ) :
    (Postgres.backend server).executeBatch s w =
      let rows := Postgres.Statement.executeRows server s s.batch.toList w
      ⟨collected s.sql rows.1, ({ s with batch := #[] }, rows.2), []⟩ := by
  simp only [Postgres.backend, Postgres.Statement.executeBatch, collected]
  cases (Postgres.Statement.executeRows server s s.batch.toList w).1.mapM id <;> rfl

/-- The rows of a batch have one outcome each. Those that a message can be made of are sent for the
statement, each once and in their order, and come to what the server answers; the others are held
back, each by the first check of its message that fails. If all come to a number of rows the batch
comes to these numbers, and otherwise to the first fault of all, with the SQL of the statement and
all causes of the fault. The batch is empty afterwards in either case, and an empty one reaches no
server. -/
theorem batch_of_partial_failure (server : Postgres.Server σ) (s : Postgres.Statement) (w : σ) :
    let reply := (Postgres.backend server).executeBatch s w
    let recorded := (Postgres.backend (recordingRows server)).executeBatch s (w, [])
    reply = recorded.mapState (through Prod.fst) ∧
    reply.state.1 = { s with batch := #[] } ∧
    (s.batch = #[] → reply = .ok [] (s, w)) ∧
    ∃ outcomes : List (Except Fault Nat), outcomes.length = s.batch.size ∧
      recorded.state.2.2 = (s.batch.toList.zip outcomes).filterMap (sentRow? server s) ∧
      (∀ x ∈ s.batch.toList.zip outcomes, ¬ CanSend server s x.1 →
        ∃ f, HeldBack server.library s.name s.types x.1 f ∧ x.2 = .error f) ∧
      (∀ counts, reply.result = .ok counts ↔ outcomes = counts.map .ok) ∧
      ∀ e, reply.result = .error e ↔
        ∃ (counts : List Nat) (f : Fault) (rest : List (Except Fault Nat)),
          outcomes = counts.map .ok ++ .error f :: rest ∧
            e = .query f.text (some s.sql) f.chain := by
  intro reply recorded
  obtain ⟨outcomes, left, h⟩ := exists_handled server s s.batch.toList w []
  have hreply : reply = ⟨collected s.sql outcomes, ({ s with batch := #[] }, left.1), []⟩ := by
    unfold reply
    rw [executeBatch_eq server s w, h.plain]
  have hrecorded : recorded = ⟨collected s.sql outcomes, ({ s with batch := #[] }, left), []⟩ := by
    unfold recorded
    rw [executeBatch_eq (recordingRows server) s (w, []), h.recorded]
  refine ⟨?_, ?_, ?_, outcomes, ?_, ?_, h.heldBack, ?_, ?_⟩
  · rw [hreply, hrecorded]
    rfl
  · rw [hreply]
  · intro hempty
    have hself : ({ s with batch := #[] } : Postgres.Statement) = s := by rw [← hempty]
    unfold reply
    rw [executeBatch_eq server s w, hempty, hself]
    rfl
  · rw [h.length, Array.length_toList]
  · rw [hrecorded]
    exact h.sent
  · intro counts
    rw [hreply]
    exact collected_eq_ok_iff
  · intro e
    rw [hreply]
    exact collected_eq_error_iff

/-- A text in the second of three rows of integers. The third is sent, and the batch fails. -/
theorem batch_of_partial_failure_misfit :
    let server := tallyOf [⟨23, "int4"⟩]
    let s : Postgres.Statement := ⟨0, "s0", [⟨23, "int4"⟩], .fresh "INSERT INTO t VALUES ($1)" 1,
      #[[.object (.int32 7)], [.object (.string "x")], [.object (.int32 9)]]⟩
    let reply := (Postgres.backend server).executeBatch s 0
    let recorded := (Postgres.backend (recordingRows server)).executeBatch s (0, [])
    recorded.state.2.2.map SentRow.cells = [[some [0, 0, 0, 7]], [some [0, 0, 0, 9]]] ∧
      reply.result =
        .error ((Postgres.unfit 0 "cannot convert to the type int4").rejected s.sql) ∧
      reply.state.1.batch = #[] := by
  intro server s reply recorded
  obtain ⟨_, hstate, _⟩ := batch_of_partial_failure server s 0
  exact ⟨by decide, rfl, congrArg Postgres.Statement.batch hstate⟩

end BatchInsert.Proofs
