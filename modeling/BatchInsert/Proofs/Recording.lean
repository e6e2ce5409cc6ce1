import BatchInsert.Proofs.Opening

/-!
# What is recorded

The events that the calls of the in-memory backend, and from them the operations of a writer, add to
the journal. A call that succeeds is recorded, and of those that fail only executions are.
-/

namespace BatchInsert.Proofs

open Database (Call Driver)
open Memory (Event)
open Writer (Session)

/-! ### Events -/

/-- Parameters bound at the positions after `index`, one after the other. -/
def bindings (index : Nat) : List Sql.Param → List Event
  | [] => []
  | p :: ps => .bind (index + 1) p :: bindings (index + 1) ps

/-- At most one execution, of a batch that is neither empty nor too large. -/
inductive Executions (batchSize : Nat) : List Event → Prop
  | none : Executions batchSize []
  | one {rows : Nat} (hpos : 1 ≤ rows) (hle : rows ≤ batchSize) :
    Executions batchSize [.executeBatch rows]

def connected (plan : Plan) : Event :=
  .connect plan.target.url (plan.target.credentials.map (·.username))

def opened (plan : Plan) : List Event := [connected plan, .prepare plan.statement]

/-! ### What the calls of the backend record -/

/-- The world is the same but for events that have been added to the journal. -/
structure Records (w : Memory.World) (events : List Event) (w' : Memory.World) : Prop where
  events : w'.journal.events.toList = w.journal.events.toList ++ events
  rest : w'.clear = w.clear

namespace Records

variable {w w₁ w₂ : Memory.World} {events more : List Event}

lemma refl (w : Memory.World) : Records w [] w := ⟨(List.append_nil _).symm, rfl⟩

lemma trans (h : Records w events w₁) (h' : Records w₁ more w₂) : Records w (events ++ more) w₂ :=
  ⟨by rw [h'.events, h.events, List.append_assoc], h'.rest.trans h.rest⟩

lemma record (w : Memory.World) (e : Event) : Records w [e] (w.record e) :=
  ⟨by simp [Memory.World.record, Memory.Journal.record], rfl⟩

lemma faults (h : Records w events w₁) : w₁.faults = w.faults := by
  have hfaults : w₁.clear.faults = w.clear.faults := by rw [h.rest]
  exact hfaults

end Records

/-- The event of a call that is recorded unless the call is made to fail. -/
def permitted (w : Memory.World) (c : Call) (e : Event) : List Event :=
  if w.faults.contains c then [] else [e]

lemma Records.permitted_eq {w w' : Memory.World} {events : List Event} (h : Records w events w')
    (c : Call) (e : Event) : permitted w' c e = permitted w c e := by
  simp only [permitted, h.faults]

/-- The event of a call that succeeded. -/
def onSuccess {ε α : Type} (result : Except ε α) (e : Event) : List Event :=
  match result with
  | .ok _ => [e]
  | .error _ => []

lemma records_connect (t : Database.Target) (w : Memory.World) :
    Records w (onSuccess (Memory.connect t w).result (.connect t.url (t.credentials.map (·.username))))
      (Memory.connect t w).state := by
  simp only [Memory.connect]
  split
  · exact .refl w
  · exact .record w _

lemma records_prepare (sql : String) (c : Memory.Connection) (w : Memory.World) :
    Records w (onSuccess (Memory.backend.prepare sql c w).result (.prepare sql))
      (Memory.backend.prepare sql c w).state := by
  simp only [Memory.backend, Memory.prepare]
  repeat' split
  · exact .refl w
  · exact .refl w
  · exact .record w _

lemma records_bind {position : Nat} (hposition : position ≠ 0) (p : Sql.Param)
    (s : Memory.Statement) (w : Memory.World) :
    Records w (onSuccess (Memory.backend.bind position p s w).result (.bind position p))
      (Memory.backend.bind position p s w).state.2 := by
  simp only [Memory.backend, Memory.Statement.bind, if_neg hposition]
  split
  · exact .refl w
  · exact .record w _

lemma records_addBatch (s : Memory.Statement) (w : Memory.World) :
    Records w (onSuccess (Memory.backend.addBatch s w).result .addBatch)
      (Memory.backend.addBatch s w).state.2 := by
  simp only [Memory.backend, Memory.Statement.addBatch]
  split
  · exact .refl w
  · exact .record w _

lemma records_executeBatch (s : Memory.Statement) (w : Memory.World) :
    Records w [.executeBatch s.batch.size] (Memory.backend.executeBatch s w).state.2 := by
  simp only [Memory.backend, Memory.Statement.executeBatch, Array.length_toList]
  split
  · exact .record w _
  · exact ⟨by simp [Database.Reply.ok, Memory.Journal.execute], rfl⟩

lemma records_closeStatement (s : Memory.Statement) (w : Memory.World) :
    Records w (permitted w .closeStatement .closeStatement)
      (Memory.backend.closeStatement s w).state.2 := by
  simp only [Memory.backend, Memory.Statement.close, permitted]
  split
  · exact .refl w
  · exact .record w _

lemma records_closeConnection (c : Memory.Connection) (w : Memory.World) :
    Records w (permitted w .closeConnection .closeConnection)
      (Memory.backend.closeConnection c w).state.2 := by
  simp only [Memory.backend, Memory.closeConnection, permitted]
  split
  · exact .refl w
  · exact .record w _

/-! ### What the calls of the writer record -/

lemma find?_of_resolve {δ : Type} {r : Registry δ} {query : String} {d : δ}
    (h : r.resolve query = .ok d) : r.find? query = some d := by
  unfold Registry.resolve at h
  split at h
  · rename_i hfind
    exact hfind.trans (congrArg some (Except.ok.inj h))
  · cases h

lemma records_bindFrom (types : Option (List Sql.Tag)) (s : Memory.Statement) (w : Memory.World)
    (index : Nat) (vs : List Value) :
    let bound := Binding.bindFrom Memory.backend types s w index vs
    ∃ params : List Sql.Param, params.length ≤ vs.length ∧
      (bound.result = .ok () → params.length = vs.length) ∧
      Records w (bindings index params) bound.state.2 := by
  induction vs generalizing s w index with
  | nil => exact ⟨[], Nat.le_refl _, fun _ => rfl, .refl w⟩
  | cons v vs ih =>
    simp only [Binding.bindFrom]
    split
    · exact ⟨[], Nat.zero_le _, by simp [Database.Reply.after, Database.Reply.fail], .refl w⟩
    · rename_i p _
      have hbind := records_bind (Nat.succ_ne_zero index) p s w
      split
      · rename_i hresult
        rw [hresult] at hbind
        exact ⟨[], Nat.zero_le _, by simp, hbind⟩
      · rename_i hresult
        rw [hresult] at hbind
        obtain ⟨params, hle, hok, hrest⟩ :=
          ih (Memory.backend.bind (index + 1) p s w).state.1
            (Memory.backend.bind (index + 1) p s w).state.2 (index + 1)
        exact ⟨p :: params, Nat.succ_le_succ hle, fun h => congrArg (· + 1) (hok h),
          hbind.trans hrest⟩

lemma records_append (types : Option (List Sql.Tag)) (r : Record) (s : Memory.Statement)
    (w : Memory.World) :
    let added := Writer.append Memory.backend types r s w
    let row := taken? added
    ∃ params : List Sql.Param, params.length ≤ r.arity ∧
      (row.isSome → params.length = r.arity) ∧
      Records w (bindings 0 params ++ if row.isSome then [.addBatch] else []) added.state.2 := by
  intro added row
  obtain ⟨params, hle, hok, hbind⟩ := records_bindFrom types s w 0 r.fields
  have hadd := records_addBatch (Binding.record Memory.backend types r s w).state.1
    (Binding.record Memory.backend types r s w).state.2
  have hbatch := (addBatch_keeps (Binding.record Memory.backend types r s w).state.1
    (Binding.record Memory.backend types r s w).state.2).1
  refine ⟨params, hle, ?_⟩
  rcases append_cases Memory.backend types r s w with
    ⟨f, _, h, hs⟩ | ⟨e, _, ha, h, hs⟩ | ⟨hbound, ha, h, hs⟩
  · have hrow : row = none := by simp [row, taken?, added, h]
    simp only [hrow, added, hs]
    exact ⟨by simp, hbind.trans (.refl _)⟩
  · rw [ha] at hadd
    have hrow : row = none := by simp [row, taken?, added, h]
    simp only [hrow, added, hs]
    exact ⟨by simp, hbind.trans hadd⟩
  · rw [ha] at hadd hbatch
    have hrow : row.isSome = true := by simp [row, taken?, added, h, hs, hbatch]
    simp only [hrow, added, hs]
    exact ⟨fun _ => hok hbound, hbind.trans hadd⟩

lemma records_execute {s : Session Memory.Connection Memory.Statement} {batchSize : Nat}
    (hs : s.pending = s.statement.batch.size) (hroom : s.pending ≤ batchSize) (stats : Stats)
    (w : Memory.World) :
    ∃ executions, Executions batchSize executions ∧
      Records w executions (Writer.execute Memory.backend s stats w).state.2.2 := by
  by_cases hzero : s.pending = 0
  · rw [execute_of_zero Memory.backend hzero]
    exact ⟨[], .none, .refl w⟩
  · have hexecute := records_executeBatch s.statement w
    refine ⟨_, .one (Nat.pos_of_ne_zero (hs ▸ hzero)) (hs ▸ hroom), ?_⟩
    rcases execute_of_pos Memory.backend hzero stats w with ⟨_, _, _, h⟩ | ⟨_, _, _, h⟩
    · rw [h]
      exact hexecute
    · rw [h]
      exact hexecute

lemma records_opening {x : MemoryWriter}
    (hmemory : ∀ d, x.registry.find? x.plan.driver = some d → d = Memory.driver)
    {w w' : Memory.World} {made : List (Exchange Memory.Connection)}
    {result : Except OpenFailure Unit} (h : Opening Memory.backend x w made result w') :
    (∃ f, result = .error f ∧ (Records w [] w' ∨
      Records w (connected x.plan :: permitted w .closeConnection .closeConnection) w')) ∨
    (result = .ok () ∧ Records w (opened x.plan) w') := by
  have hconnects {d : Driver Memory.World Memory.Connection}
      (hdriver : x.registry.resolve x.plan.driver = .ok d) (w : Memory.World) :
      Records w (onSuccess (d.connect x.plan.target w).result (connected x.plan))
        (d.connect x.plan.target w).state := by
    rw [hmemory d (find?_of_resolve hdriver)]
    exact records_connect x.plan.target w
  cases h with
  | unresolved _ => exact .inl ⟨_, rfl, .inl (.refl w)⟩
  | unconnected hdriver hconnect =>
    have hfirst := hconnects hdriver w
    rw [hconnect] at hfirst
    exact .inl ⟨_, rfl, .inl hfirst⟩
  | @unprepared d c c' e closed w₁ w₂ w₃ log log' log'' hdriver hconnect hprepare hclose =>
    have hfirst := hconnects hdriver w
    have hsecond := records_prepare x.plan.statement c w₁
    have hthird := records_closeConnection c w₂
    rw [hconnect] at hfirst
    rw [hprepare] at hsecond
    rw [hclose] at hthird
    have hall := (hfirst.trans hsecond).trans hthird
    rw [(hfirst.trans hsecond).permitted_eq] at hall
    exact .inl ⟨_, rfl, .inr hall⟩
  | @opened d c s w₁ w₂ log log' hdriver hconnect hprepare =>
    have hfirst := hconnects hdriver w
    have hsecond := records_prepare x.plan.statement c w₁
    rw [hconnect] at hfirst
    rw [hprepare] at hsecond
    exact .inr ⟨rfl, hfirst.trans hsecond⟩

end BatchInsert.Proofs
