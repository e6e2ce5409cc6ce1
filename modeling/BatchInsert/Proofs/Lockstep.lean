import BatchInsert.Proofs.Positions

/-!
# Statements of two servers in step

A PostgreSQL and a MySQL statement with equally many placeholders accept and refuse the same
parameters and rows, in the same words, and their batches hold the same rows, those for MySQL
converted already. A row is as wide as there are placeholders, so neither client library is handed
any other.
-/

namespace BatchInsert.Proofs

open Database (Error Placeholders Reply Server)

variable {σ σ' ο π α : Type}

/-- The server with every row noted that it is sent. -/
def noting (server : Server σ ο π α) : Server (σ × List (List α)) ο π α where
  login o w := Prod.map id (·, w.2) (server.login o w.1)
  prepare session sql w := Prod.map id (·, w.2) (server.prepare session sql w.1)
  execute session sql row w := Prod.map id (·, w.2 ++ [row]) (server.execute session sql row w.1)
  discard session sql w := Prod.map id (·, w.2) (server.discard session sql w.1)
  logout session w := Prod.map id (·, w.2) (server.logout session w.1)
  executionTime session sql rows w := server.executionTime session sql rows w.1

def notingRows (server : Postgres.Server σ) :
    Postgres.Server (σ × List (List (Option (List UInt8)))) :=
  ⟨noting server.toServer, server.library⟩

/-- An answer with the texts of its error alone. -/
def inWords (result : Except Error Unit) : Except (List String) Unit := result.mapError Error.chain

/-- What a statement keeps between calls: the parameters that are bound, and the rows that have been
moved and wait. -/
structure Buffer where
  bound : Bindings
  rows : List (List Sql.Param)

namespace Buffer

def empty : Buffer := ⟨fun _ => none, []⟩

/-- The parameters at the positions from one to `n`. -/
def row (n : Nat) (x : Buffer) : List Sql.Param := (List.range' 1 n).filterMap x.bound

/-- The buffer of a statement with `n` placeholders after a call. -/
def after (n : Nat) (x : Buffer) (c : StatementCall) : Buffer where
  bound := bindingsAfter n x.bound c
  rows := match c with
    | .bind _ _ => x.rows
    | .addBatch => if x.bound.isFull n then x.rows ++ [x.row n] else x.rows
    | .executeBatch | .close => []

end Buffer

/-- What goes for two statements with `n` placeholders each, one of each server, which keep what is in
a buffer. -/
structure InStep (pg : Postgres.Server σ) (my : Mysql.Server σ') (n : Nat) (x : Buffer)
    (s : Postgres.Statement) (s' : Mysql.Statement) : Prop where
  /-- The positions are those of the placeholders. -/
  bind : ∀ position p w w',
    let reply := (Postgres.backend pg).bind position p s w
    let reply' := (Mysql.backend my).bind position p s' w'
    (reply.result = .ok () ↔ 1 ≤ position ∧ position ≤ n) ∧
      inWords reply'.result = inWords reply.result ∧
      (reply.result ≠ .ok () → reply.state = (s, w) ∧ reply'.state = (s', w'))
  /-- A row is moved once it is full. -/
  addBatch : ∀ w w',
    let reply := (Postgres.backend pg).addBatch s w
    let reply' := (Mysql.backend my).addBatch s' w'
    (reply.result = .ok () ↔ x.bound.isFull n) ∧ inWords reply'.result = inWords reply.result ∧
      (reply.result ≠ .ok () → reply.state = (s, w) ∧ reply'.state = (s', w'))
  batch : s.batch.toList = x.rows ∧
    s'.batch.toList = x.rows.map (List.map Mysql.Datum.ofParam) ∧
    (Mysql.backend my).batchLength s' = (Postgres.backend pg).batchLength s
  /-- The rows that an execution hands on, and the ones that reach the server. -/
  width : s.types.length = n ∧ (∀ row ∈ x.rows, row.length = n) ∧ ∀ w w' sessions,
    (∀ row ∈ ((Postgres.backend (notingRows pg)).executeBatch s (w, [])).state.2.2, row.length = n) ∧
    ∀ row ∈ ((Mysql.backend (noting my)).executeBatch s' ⟨(w', []), sessions⟩).state.2.server.2,
      row.length = n

lemma filterMap_range' {n : Nat} {l : List α} {f : Nat → Option α} (h : ∀ i, l[i]? = f (n + i)) :
    (List.range' n l.length).filterMap f = l := by
  induction l generalizing n with
  | nil => rfl
  | cons a l ih =>
    have hhead : f n = some a := (h 0).symm
    have hrest : ∀ i, l[i]? = f (n + 1 + i) := by
      intro i
      rw [Nat.add_assoc, Nat.add_comm 1, ← h (i + 1)]
      rfl
    rw [List.length_cons, List.range'_succ, List.filterMap_cons, hhead, ih hrest]

/-! ### Executions -/

lemma executeBatch_postgres (pg : Postgres.Server σ) (s : Postgres.Statement) (w : σ) :
    ((Postgres.backend pg).executeBatch s w).state.1 = { s with batch := #[] } := by
  simp only [Postgres.backend, Postgres.Statement.executeBatch]
  split <;> rfl

lemma executeBatch_mysql (my : Mysql.Server σ) (s : Mysql.Statement) (w : Mysql.World σ) :
    ((Mysql.backend my).executeBatch s w).state.1 = { s with batch := #[] } := by
  simp only [Mysql.backend, Mysql.Statement.executeBatch]
  repeat' split
  all_goals rfl

lemma types_of_prepare {pg : Postgres.Server σ} {sql : String} {c : Postgres.Connection} {w : σ}
    {s : Postgres.Statement} (h : ((Postgres.backend pg).prepare sql c w).result = .ok s) :
    s.types.length = s.placeholders.count := by
  simp only [Postgres.backend, Postgres.prepare] at h
  repeat' split at h
  · cases h
  · cases h
  · cases h
    rfl

lemma length_cells {library : Postgres.Library} {index : Nat} {types : List Postgres.ServerType}
    {arguments : List Postgres.Argument} {row : List (Option (List UInt8))}
    (hrow : Postgres.cells library index types arguments = .ok row)
    (hlength : arguments.length = types.length) : row.length = types.length := by
  induction types generalizing index arguments row with
  | nil =>
    cases arguments <;> cases hrow <;> rfl
  | cons t types ih =>
    cases arguments with
    | nil => cases hlength
    | cons a arguments =>
      simp only [Postgres.cells] at hrow
      split at hrow
      · cases hrow
      · split at hrow
        · cases hrow
        · cases hcells : Postgres.cells library (index + 1) types arguments with
          | error f => simp [hcells, Except.map] at hrow
          | ok rest =>
            simp only [hcells, Except.map, Except.ok.injEq] at hrow
            subst hrow
            exact congrArg (· + 1) (ih hcells (Nat.succ.inj hlength))

lemma length_message {library : Postgres.Library} {name : String}
    {types : List Postgres.ServerType} {arguments : List Postgres.Argument}
    {row : List (Option (List UInt8))}
    (hrow : Postgres.message library name types arguments = .ok row)
    (hlength : arguments.length = types.length) : row.length = types.length := by
  unfold Postgres.message at hrow
  split at hrow
  · cases hrow
  · split at hrow
    · cases hrow
    · cases hcells : Postgres.cells library 0 types arguments with
      | error f =>
        rw [hcells] at hrow
        cases hrow
      | ok cells =>
        rw [hcells, Except.bind] at hrow
        split at hrow
        · cases hrow
          exact length_cells hcells hlength
        · cases hrow

lemma noted_postgres (pg : Postgres.Server σ) {s : Postgres.Statement}
    (h : ∀ row ∈ s.batch.toList, row.length = s.types.length) (w : σ) :
    ∀ row ∈ ((Postgres.backend (notingRows pg)).executeBatch s (w, [])).state.2.2,
      row.length = s.types.length := by
  have hrun : ∀ (rows : List (List Sql.Param)) (w : σ × List (List (Option (List UInt8)))),
      (∀ row ∈ rows, row.length = s.types.length) → (∀ row ∈ w.2, row.length = s.types.length) →
      ∀ row ∈ (Postgres.Statement.executeRows (notingRows pg) s rows w).2.2,
        row.length = s.types.length := by
    intro rows
    induction rows with
    | nil => exact fun w _ hnoted => hnoted
    | cons row rows ih =>
      intro w hrows hnoted
      obtain ⟨hrow, hrest⟩ := List.forall_mem_cons.mp hrows
      simp only [Postgres.Statement.executeRows, Postgres.Statement.executeRow]
      split
      · exact ih _ hrest hnoted
      · rename_i cells hcells
        refine ih _ hrest ?_
        intro sent hsent
        rcases List.mem_append.mp hsent with hold | hnew
        · exact hnoted sent hold
        · rw [List.mem_singleton.mp hnew]
          exact length_message hcells (by rw [List.length_map, hrow])
  have hstate : ((Postgres.backend (notingRows pg)).executeBatch s (w, [])).state.2 =
      (Postgres.Statement.executeRows (notingRows pg) s s.batch.toList (w, [])).2 := by
    simp only [Postgres.backend, Postgres.Statement.executeBatch]
    split <;> rfl
  rw [hstate]
  exact hrun _ _ h (by simp)

lemma noted_mysql (my : Mysql.Server σ) {s : Mysql.Statement} {n : Nat}
    (h : ∀ row ∈ s.batch.toList, row.length = n) (w : σ) (sessions : List Nat) :
    ∀ row ∈ ((Mysql.backend (noting my)).executeBatch s ⟨(w, []), sessions⟩).state.2.server.2,
      row.length = n := by
  have hrun : ∀ (rows : List (List Mysql.Datum)) (w : σ × List (List Mysql.Datum)),
      (∀ row ∈ rows, row.length = n) → (∀ row ∈ w.2, row.length = n) →
      ∀ row ∈ (Mysql.Statement.executeRows (noting my) s rows w).2.2, row.length = n := by
    intro rows
    induction rows with
    | nil => exact fun w _ hnoted => hnoted
    | cons row rows ih =>
      intro w hrows hnoted
      obtain ⟨hrow, hrest⟩ := List.forall_mem_cons.mp hrows
      have hnext : ∀ sent ∈ w.2 ++ [row], sent.length = n := by
        intro sent hsent
        rcases List.mem_append.mp hsent with hold | hnew
        · exact hnoted sent hold
        · rw [List.mem_singleton.mp hnew, hrow]
      rcases hexecute : my.execute s.session s.sql row w.1 with ⟨result, left⟩
      cases result with
      | error f =>
        simp only [Mysql.Statement.executeRows, noting, hexecute]
        exact hnext
      | ok count =>
        simp only [Mysql.Statement.executeRows, noting, hexecute]
        exact ih _ hrest hnext
  have hnoted := hrun s.batch.toList (w, []) h (by simp)
  simp only [Mysql.backend, Mysql.Statement.executeBatch]
  split
  · simp [Reply.ok]
  · split
    · simp [Reply.fail]
    · rcases hrows : Mysql.Statement.executeRows (noting my) s s.batch.toList (w, []) with
        ⟨result, left⟩
      rw [hrows] at hnoted
      cases result <;> exact hnoted

/-! ### Two statements -/

/-- Both statements keep what is in the buffer. -/
structure Mirrors (n : Nat) (x : Buffer) (s : Postgres.Statement) (s' : Mysql.Statement) :
    Prop where
  postgres : Tells s.placeholders n x.bound
  mysql : Tells s'.placeholders n x.bound
  bound : s'.placeholders.bound = s.placeholders.bound
  types : s.types.length = n
  batch : s.batch.toList = x.rows
  converted : s'.batch.toList = x.rows.map (List.map Mysql.Datum.ofParam)
  rows : ∀ row ∈ x.rows, row.length = n

namespace Mirrors

variable {n : Nat} {x : Buffer} {s : Postgres.Statement} {s' : Mysql.Statement}

lemma bind_ok (h : Mirrors n x s s') {position : Nat} {p : Sql.Param} {y : Placeholders}
    (hy : s.placeholders.bind position p = .ok y) :
    ∃ y', s'.placeholders.bind position p = .ok y' ∧ y'.bound = y.bound := by
  have hrange := (h.postgres.bind_ok_iff position p).mp ⟨y, hy⟩
  obtain ⟨y', hy'⟩ := (h.mysql.bind_ok_iff position p).mpr hrange
  refine ⟨y', hy', ?_⟩
  have hbound := congrArg Slots.bound (placeholders_bind_ok hy).1
  have hbound' := congrArg Slots.bound (placeholders_bind_ok hy').1
  exact hbound'.trans ((congrArg (Ordered.insert position p) h.bound).trans hbound.symm)

lemma bind_error (h : Mirrors n x s s') {position : Nat} {p : Sql.Param} {e : Error}
    (he : s.placeholders.bind position p = .error e) :
    ∃ e', s'.placeholders.bind position p = .error e' ∧ e'.chain = e.chain := by
  have hcount : s'.placeholders.count = s.placeholders.count :=
    h.mysql.count.trans h.postgres.count.symm
  simp only [Placeholders.bind, hcount] at he ⊢
  split at he
  · rename_i hrange
    cases he
    exact ⟨_, if_pos hrange, rfl⟩
  · cases he

lemma takeRow_ok (h : Mirrors n x s s') {row : List Sql.Param} {y : Placeholders}
    (hrow : s.placeholders.takeRow = .ok (row, y)) :
    ∃ y', s'.placeholders.takeRow = .ok (row, y') ∧ y'.bound = y.bound := by
  have hfull := (h.postgres.takeRow_ok_iff).mp ⟨row, y, hrow⟩
  obtain ⟨row', y', hrow'⟩ := (h.mysql.takeRow_ok_iff).mpr hfull
  have heq : row' = row := by
    refine List.ext_getElem? fun i => ?_
    rw [(h.mysql.row_eq hrow').2, (h.postgres.row_eq hrow).2]
  have hbound := congrArg Slots.bound (placeholders_takeRow_ok hrow).1
  have hbound' := congrArg Slots.bound (placeholders_takeRow_ok hrow').1
  exact ⟨y', heq ▸ hrow', hbound'.trans hbound.symm⟩

lemma takeRow_error (h : Mirrors n x s s') {e : Error}
    (he : s.placeholders.takeRow = .error e) :
    ∃ e', s'.placeholders.takeRow = .error e' ∧ e'.chain = e.chain := by
  have hcount : s'.placeholders.count = s.placeholders.count :=
    h.mysql.count.trans h.postgres.count.symm
  simp only [Placeholders.takeRow, hcount, h.bound] at he ⊢
  split at he
  · cases he
  · rename_i hlength
    cases he
    exact ⟨_, if_neg hlength, rfl⟩

lemma row_eq (h : Mirrors n x s s') {row : List Sql.Param} {y : Placeholders}
    (hrow : s.placeholders.takeRow = .ok (row, y)) : x.row n = row := by
  obtain ⟨hlength, hentries⟩ := h.postgres.row_eq hrow
  rw [Buffer.row, ← hlength]
  exact filterMap_range' fun i => by rw [hentries, Nat.add_comm]

section Call

variable (pg : Postgres.Server σ) (my : Mysql.Server σ') (w : σ) (w' : Mysql.World σ')

lemma tells_ask (h : Mirrors n x s s') (c : StatementCall) :
    Tells (c.ask (Postgres.backend pg) s w).state.1.placeholders n (x.after n c).bound ∧
      Tells (c.ask (Mysql.backend my) s' w').state.1.placeholders n (x.after n c).bound := by
  rw [places_ask (placed_postgres pg) (places_close_postgres pg),
    places_ask (placed_mysql my) (places_close_mysql my)]
  exact ⟨h.postgres.after c, h.mysql.after c⟩

lemma ask_bind (h : Mirrors n x s s') (position : Nat) (p : Sql.Param) :
    Mirrors n (x.after n (.bind position p))
      ((Postgres.backend pg).bind position p s w).state.1
      ((Mysql.backend my).bind position p s' w').state.1 := by
  obtain ⟨hpostgres, hmysql⟩ := h.tells_ask pg my w w' (.bind position p)
  cases hbind : s.placeholders.bind position p with
  | error e =>
    obtain ⟨e', hbind', _⟩ := h.bind_error hbind
    have hs := ((placed_postgres pg).bind_error (w := w) hbind).2
    have hs' := ((placed_mysql my).bind_error (w := w') hbind').2
    simp only [StatementCall.ask, uncounted, hs, hs'] at hpostgres hmysql ⊢
    exact ⟨hpostgres, hmysql, h.bound, h.types, h.batch, h.converted, h.rows⟩
  | ok y =>
    obtain ⟨y', hbind', hy⟩ := h.bind_ok hbind
    refine ⟨hpostgres, hmysql, ?_, ?_, ?_, ?_, h.rows⟩
    all_goals
      simp only [Postgres.backend, Mysql.backend, Postgres.Statement.bind, Mysql.Statement.bind,
        hbind, hbind']
    · exact hy
    · exact h.types
    · exact h.batch
    · exact h.converted

lemma ask_addBatch (h : Mirrors n x s s') :
    Mirrors n (x.after n .addBatch) ((Postgres.backend pg).addBatch s w).state.1
      ((Mysql.backend my).addBatch s' w').state.1 := by
  obtain ⟨hpostgres, hmysql⟩ := h.tells_ask pg my w w' .addBatch
  have hfull := h.postgres.takeRow_ok_iff
  cases htake : s.placeholders.takeRow with
  | error e =>
    obtain ⟨e', htake', _⟩ := h.takeRow_error htake
    have hs := ((placed_postgres pg).add_error (w := w) htake).2
    have hs' := ((placed_mysql my).add_error (w := w') htake').2
    simp only [htake, reduceCtorEq, exists_false, false_iff] at hfull
    have hrows : (x.after n .addBatch).rows = x.rows := if_neg hfull
    simp only [StatementCall.ask, uncounted, hs, hs'] at hpostgres hmysql ⊢
    refine ⟨hpostgres, hmysql, h.bound, h.types, ?_, ?_, ?_⟩
    all_goals rw [hrows]
    · exact h.batch
    · exact h.converted
    · exact h.rows
  | ok taken =>
    obtain ⟨y', htake', hy⟩ := h.takeRow_ok htake
    have hrows : (x.after n .addBatch).rows = x.rows ++ [taken.1] := by
      rw [← h.row_eq htake]
      exact if_pos (hfull.mp ⟨_, _, htake⟩)
    have hwidth : taken.1.length = n := (h.postgres.row_eq htake).1
    refine ⟨hpostgres, hmysql, ?_, ?_, ?_, ?_, ?_⟩
    · simp only [Postgres.backend, Mysql.backend, Postgres.Statement.addBatch,
        Mysql.Statement.addBatch, htake, htake']
      exact hy
    · simp only [Postgres.backend, Postgres.Statement.addBatch, htake]
      exact h.types
    · simp only [Postgres.backend, Postgres.Statement.addBatch, htake, Reply.ok,
        Array.toList_push, h.batch, hrows]
    · simp only [Mysql.backend, Mysql.Statement.addBatch, htake', Reply.ok, Array.toList_push,
        h.converted, hrows, List.map_append, List.map_cons, List.map_nil]
    · rw [hrows]
      exact List.forall_mem_append.mpr ⟨h.rows, List.forall_mem_singleton.mpr hwidth⟩

lemma ask (h : Mirrors n x s s') (c : StatementCall) :
    Mirrors n (x.after n c) (c.ask (Postgres.backend pg) s w).state.1
      (c.ask (Mysql.backend my) s' w').state.1 := by
  obtain ⟨hpostgres, hmysql⟩ := h.tells_ask pg my w w' c
  cases c with
  | bind position p => exact h.ask_bind pg my w w' position p
  | addBatch => exact h.ask_addBatch pg my w w'
  | executeBatch =>
    simp only [StatementCall.ask, executeBatch_postgres, executeBatch_mysql] at hpostgres hmysql ⊢
    exact ⟨hpostgres, hmysql, h.bound, h.types, rfl, rfl, List.forall_mem_nil _⟩
  | close =>
    have hs' : ((Mysql.backend my).closeStatement s' w').state.1 =
        { s' with placeholders := s'.placeholders.clear, batch := #[] } := by
      simp only [Mysql.backend, Mysql.Statement.close]
      repeat' split
      all_goals rfl
    simp only [StatementCall.ask, uncounted, hs'] at hpostgres hmysql ⊢
    exact ⟨hpostgres, hmysql, rfl, h.types, rfl, rfl, List.forall_mem_nil _⟩

end Call

lemma leftBy (h : Mirrors n x s s') (pg : Postgres.Server σ) (my : Mysql.Server σ')
    (calls : List (StatementCall × σ × Mysql.World σ')) :
    Mirrors n ((calls.map Prod.fst).foldl (Buffer.after n) x)
      (Proofs.leftBy (Postgres.backend pg) (calls.map fun call => (call.1, call.2.1)) s)
      (Proofs.leftBy (Mysql.backend my) (calls.map fun call => (call.1, call.2.2)) s') := by
  induction calls generalizing x s s' with
  | nil => exact h
  | cons call calls ih => exact ih (h.ask pg my call.2.1 call.2.2 call.1)

/-- Of what two such statements answer, nothing depends on which server theirs is. -/
lemma inStep (h : Mirrors n x s s') (pg : Postgres.Server σ) (my : Mysql.Server σ') :
    InStep pg my n x s s' where
  bind := by
    intro position p w w'
    rw [← h.postgres.bind_ok_iff position p]
    cases hbind : s.placeholders.bind position p with
    | error e =>
      obtain ⟨e', hbind', hchain⟩ := h.bind_error hbind
      simp only [Postgres.backend, Mysql.backend, Postgres.Statement.bind, Mysql.Statement.bind,
        hbind, hbind']
      exact ⟨by simp [Reply.fail], congrArg Except.error hchain, fun _ => ⟨rfl, rfl⟩⟩
    | ok y =>
      obtain ⟨y', hbind', _⟩ := h.bind_ok hbind
      simp only [Postgres.backend, Mysql.backend, Postgres.Statement.bind, Mysql.Statement.bind,
        hbind, hbind']
      exact ⟨iff_of_true rfl ⟨_, rfl⟩, rfl, fun hnot => absurd rfl hnot⟩
  addBatch := by
    intro w w'
    rw [← h.postgres.takeRow_ok_iff]
    cases htake : s.placeholders.takeRow with
    | error e =>
      obtain ⟨e', htake', hchain⟩ := h.takeRow_error htake
      simp only [Postgres.backend, Mysql.backend, Postgres.Statement.addBatch,
        Mysql.Statement.addBatch, htake, htake']
      exact ⟨by simp [Reply.fail], congrArg Except.error hchain, fun _ => ⟨rfl, rfl⟩⟩
    | ok taken =>
      obtain ⟨y', htake', _⟩ := h.takeRow_ok htake
      simp only [Postgres.backend, Mysql.backend, Postgres.Statement.addBatch,
        Mysql.Statement.addBatch, htake, htake']
      exact ⟨iff_of_true rfl ⟨_, _, rfl⟩, rfl, fun hnot => absurd rfl hnot⟩
  batch := by
    refine ⟨h.batch, h.converted, ?_⟩
    simp only [Mysql.backend, Postgres.backend, ← Array.length_toList, h.batch, h.converted,
      List.length_map]
  width := by
    refine ⟨h.types, h.rows, fun w w' sessions => ⟨?_, ?_⟩⟩
    · have hrows : ∀ row ∈ s.batch.toList, row.length = s.types.length := by
        rw [h.batch, h.types]
        exact h.rows
      rw [← h.types]
      exact noted_postgres pg hrows w
    · refine noted_mysql my ?_ w' sessions
      intro row hrow
      rw [h.converted] at hrow
      obtain ⟨params, hparams, rfl⟩ := List.mem_map.mp hrow
      rw [List.length_map, h.rows params hparams]

end Mirrors

/-- Two statements with equally many placeholders are prepared, one by each server, and get the same
calls, each in a world of its own in which the server may answer anything. After any such calls both
keep what is in the buffer that the calls alone make up, and accept and refuse the same. -/
theorem statements_in_step (pg : Postgres.Server σ) (my : Mysql.Server σ') {sql sql' : String}
    {c : Postgres.Connection} {c' : Mysql.Connection} {w : σ} {w' : Mysql.World σ'}
    {s : Postgres.Statement} {s' : Mysql.Statement}
    (hs : ((Postgres.backend pg).prepare sql c w).result = .ok s)
    (hs' : ((Mysql.backend my).prepare sql' c' w').result = .ok s')
    (hcount : s'.placeholders.count = s.placeholders.count)
    (calls : List (StatementCall × σ × Mysql.World σ')) :
    let n := s.placeholders.count
    InStep pg my n ((calls.map Prod.fst).foldl (Buffer.after n) .empty)
      (leftBy (Postgres.backend pg) (calls.map fun call => (call.1, call.2.1)) s)
      (leftBy (Mysql.backend my) (calls.map fun call => (call.1, call.2.2)) s') := by
  intro n
  obtain ⟨hbound, hsize⟩ := (placed_postgres pg).prepare hs
  obtain ⟨hbound', hsize'⟩ := (placed_mysql my).prepare hs'
  have hbatch : s.batch = #[] := Array.eq_empty_of_size_eq_zero hsize
  have hbatch' : s'.batch = #[] := Array.eq_empty_of_size_eq_zero hsize'
  have hmysql : Tells s'.placeholders n Buffer.empty.bound := by
    have htells := Tells.of_nothing_bound hbound'
    rw [hcount] at htells
    exact htells
  have hmirrors : Mirrors n .empty s s' :=
    ⟨.of_nothing_bound hbound, hmysql, hbound'.trans hbound.symm, types_of_prepare hs,
      congrArg Array.toList hbatch, congrArg Array.toList hbatch', List.forall_mem_nil _⟩
  exact (hmirrors.leftBy pg my calls).inStep pg my

/-- The parameters of a row are bound from the last to the first and moved; then the second is bound
again. -/
def halfBound : List (StatementCall × Nat × Mysql.World Nat) :=
  [.bind 2 (.object (.int32 7)), .bind 1 (.object (.int8 8)), .addBatch, .bind 2 (.object .null)].map
    fun c => (c, 0, ⟨0, [0]⟩)

/-- One row is in either batch, and a second one is refused. -/
theorem statements_in_step_half_bound :
    let pg := tallyOf [⟨23, "int4"⟩, ⟨23, "int4"⟩]
    let my : Mysql.Server Nat := tally 2
    let sql := "INSERT INTO t VALUES ($1, $2)"
    let sql' := "INSERT INTO t VALUES (?, ?)"
    ∃ s s', ((Postgres.backend pg).prepare sql ⟨0, false⟩ 0).result = .ok s ∧
      ((Mysql.backend my).prepare sql' ⟨0⟩ ⟨0, [0]⟩).result = .ok s' ∧
      s'.placeholders.count = s.placeholders.count ∧
      let left := leftBy (Postgres.backend pg) (halfBound.map fun call => (call.1, call.2.1)) s
      let left' := leftBy (Mysql.backend my) (halfBound.map fun call => (call.1, call.2.2)) s'
      left'.batch.toList = [[.integer 8, .integer 7]] ∧ ∀ w w',
        ((Postgres.backend pg).addBatch left w).result ≠ .ok () ∧
          inWords ((Mysql.backend my).addBatch left' w').result =
            inWords ((Postgres.backend pg).addBatch left w).result := by
  intro pg my sql sql'
  have hs : ((Postgres.backend pg).prepare sql ⟨0, false⟩ 0).result = .ok _ := rfl
  have hs' : ((Mysql.backend my).prepare sql' ⟨0⟩ ⟨0, [0]⟩).result = .ok _ := rfl
  have hstep := statements_in_step pg my hs hs' rfl halfBound
  refine ⟨_, _, hs, hs', rfl, hstep.batch.2.1, fun w w' => ?_⟩
  obtain ⟨hfull, hwords, _⟩ := hstep.addBatch w w'
  refine ⟨fun hok => ?_, hwords⟩
  exact absurd (hfull.mp hok) (by decide)

end BatchInsert.Proofs
