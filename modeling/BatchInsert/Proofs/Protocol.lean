import BatchInsert.Proofs.Recording
import BatchInsert.Url.European
import Mathlib.Data.List.Forall2

/-!
# The call protocol

What a writer over the in-memory backend leaves in the journal, read as a language: what failed
attempts to open it leave, its opening, a segment for every call while it is active, its closing, and
nothing after that. Unless closing is made to fail, all that the writer has opened and does not hold
any more has been closed, once.
-/

namespace BatchInsert.Proofs

open Database (Call Driver)
open Memory (Event)
open Writer (Session)

/-! ### The language -/

/-- What a call on an active writer leaves before the writer is closed. A write binds the fields of
its record in ascending order, all of them if the record is taken. -/
inductive Segment (batchSize : Nat) (m : MemoryMoment) : List Event → Prop
  | write {r : Record} {params : List Sql.Param} {executions : List Event}
    (hstep : m.step = .call (.write r)) (hlength : params.length ≤ r.arity)
    (hmoved : (movedRow m).isSome → params.length = r.arity)
    (hexecutions : Executions batchSize executions) :
    Segment batchSize m
      (bindings 0 params ++ (if (movedRow m).isSome then [.addBatch] else []) ++ executions)
  | other {executions : List Event} (hstep : ∀ r, m.step ≠ .call (.write r))
    (hexecutions : Executions batchSize executions) : Segment batchSize m executions

/-- Whether a step is a call on an active writer, other than to open it. -/
def working (m : MemoryMoment) : Bool :=
  m.before.1.session?.isSome &&
    match m.step with
    | .call (.write _) | .call .flush | .call .close => true
    | _ => false

/-- What a failed attempt to open leaves once it has connected. -/
def Attempt (plan : Plan) (events : List Event) : Prop :=
  events = [connected plan] ∨ events = [connected plan, .closeConnection]

/-- The journal of a writer, by where it is in its life and by the calls it got while it was
active. -/
inductive Protocol (plan : Plan) :
    List MemoryMoment → Writer.Phase Memory.Connection Memory.Statement → List Event → Prop
  | unopened {attempts : List (List Event)} (hattempts : ∀ a ∈ attempts, Attempt plan a) :
    Protocol plan [] .unopened attempts.flatten
  | unused {attempts : List (List Event)} (hattempts : ∀ a ∈ attempts, Attempt plan a) :
    Protocol plan [] .closed attempts.flatten
  | active {calls : List MemoryMoment} {attempts segments : List (List Event)}
    (s : Session Memory.Connection Memory.Statement) (hattempts : ∀ a ∈ attempts, Attempt plan a)
    (hsegments : List.Forall₂ (Segment plan.batchSize) calls segments) :
    Protocol plan calls (.active s) (attempts.flatten ++ opened plan ++ segments.flatten)
  | closed {calls : List MemoryMoment} {attempts segments : List (List Event)} {last : List Event}
    (hattempts : ∀ a ∈ attempts, Attempt plan a)
    (hsegments : List.Forall₂ (Segment plan.batchSize) calls segments)
    (hlast : last.Sublist [.closeStatement, .closeConnection]) :
    Protocol plan calls .closed (attempts.flatten ++ opened plan ++ segments.flatten ++ last)

/-! ### What a step records -/

/-- What a step leaves in the journal, with what it makes of the writer. -/
inductive Emission (plan : Plan) (m : MemoryMoment) : List Event → Prop
  | still (hidle : working m = false) (hphase : m.after.1.phase = m.before.1.phase) :
    Emission plan m []
  | attempted (hidle : working m = false) (hbefore : m.before.1.phase = .unopened)
    (hafter : m.after.1.phase = .unopened) :
    Emission plan m (connected plan :: permitted m.before.2 .closeConnection .closeConnection)
  | opened {s : Session Memory.Connection Memory.Statement} (hidle : working m = false)
    (hbefore : m.before.1.phase = .unopened) (hafter : m.after.1.phase = .active s) :
    Emission plan m (opened plan)
  | unused (hidle : working m = false) (hbefore : m.before.1.phase = .unopened)
    (hafter : m.after.1.phase = .closed) : Emission plan m []
  | worked {s s' : Session Memory.Connection Memory.Statement} {events : List Event}
    (hworking : working m = true) (hbefore : m.before.1.phase = .active s)
    (hafter : m.after.1.phase = .active s') (hsegment : Segment plan.batchSize m events) :
    Emission plan m events
  | closed {s : Session Memory.Connection Memory.Statement} {events : List Event}
    (hworking : working m = true) (hbefore : m.before.1.phase = .active s)
    (hafter : m.after.1.phase = .closed) (hsegment : Segment plan.batchSize m events) :
    Emission plan m (events ++ permitted m.before.2 .closeStatement .closeStatement ++
      permitted m.before.2 .closeConnection .closeConnection)

lemma still_of_eq {plan : Plan} {m : MemoryMoment} (hidle : working m = false)
    (h : m.after = m.before) :
    ∃ events, Emission plan m events ∧ Records m.before.2 events m.after.2 := by
  refine ⟨[], .still hidle ?_, ?_⟩
  · rw [h]
  · rw [h]
    exact .refl _

section Steps

variable {x : MemoryWriter}

lemma start_emission [Url.Names] (index total : Nat)
    (hmemory : ∀ d, x.registry.find? x.plan.driver = some d → d = Memory.driver)
    (w : Memory.World) :
    let m := moment Memory.backend Toggle.apply (.call (.start index total)) (x, w)
    ∃ events, Emission x.plan m events ∧ Records w events m.after.2 := by
  intro m
  have hidle : working m = false := by simp [working, m, moment]
  by_cases hphase : x.phase = .unopened
  · have hrecords := records_opening hmemory (start_opening Memory.backend hphase index total w)
    rcases start_cases Memory.backend index total x w with
      ⟨f, hf, h⟩ | ⟨s, _, _, hok, h, _⟩
    · have hafter : m.after.1.phase = .unopened := (congrArg (·.phase) h).trans hphase
      rcases hrecords with ⟨_, _, hnothing | hattempt⟩ | ⟨hok, _⟩
      · exact ⟨[], .still hidle (hafter.trans hphase.symm), hnothing⟩
      · exact ⟨_, .attempted hidle hphase hafter, hattempt⟩
      · rw [hf] at hok
        cases hok
    · have hafter : m.after.1.phase = .active s := congrArg (·.phase) h
      rcases hrecords with ⟨_, herror, _⟩ | ⟨_, hopened⟩
      · rw [hok] at herror
        cases herror
      · exact ⟨_, .opened hidle hphase hafter, hopened⟩
  · obtain ⟨f, h, _⟩ := start_of_opened Memory.backend hphase index total w
    exact still_of_eq hidle (congrArg (·.state) h)

lemma write_emission [Url.Names] (r : Record) (hx : Consistent Memory.backend x)
    (w : Memory.World) :
    let m := moment Memory.backend Toggle.apply (.call (.write r)) (x, w)
    ∃ events, Emission x.plan m events ∧ Records w events m.after.2 := by
  intro m
  cases hs : x.session? with
  | none =>
    have hidle : working m = false := by simp [working, m, moment, hs]
    exact still_of_eq hidle (congrArg (·.state) (write_of_session_none Memory.backend r hs w))
  | some s =>
    have hphase := session?_eq_some.mp hs
    obtain ⟨hcount, hroom⟩ := hx s hphase
    have hworking : working m = true := by simp [working, m, moment, hs]
    have hlength := batchLength_append lawful_memory x.plan.columnTypes r s.statement w
    obtain ⟨params, hle, hwhole, happend⟩ := records_append x.plan.columnTypes r s.statement w
    have hmoved : movedRow m =
        taken? (Writer.append Memory.backend x.plan.columnTypes r s.statement w) := by
      simp only [movedRow, m, moment, hs]
    rw [← hmoved] at hwhole happend
    have hsegment (executions : List Event) (h : Executions x.plan.batchSize executions) :=
      Segment.write (m := m) rfl hle hwhole h
    rcases write_cases Memory.backend r hphase w with
      ⟨_, _, _, h⟩ | ⟨_, _, _, h⟩ | ⟨ha, _, _, h⟩
    · have hafter : m.after = _ := h
      refine ⟨_, .worked hworking hphase (congrArg (·.1.phase) hafter) (hsegment [] .none), ?_⟩
      rw [hafter]
      exact happend.trans (.refl _)
    · have hafter : m.after = _ := h
      refine ⟨_, .worked hworking hphase (congrArg (·.1.phase) hafter) (hsegment [] .none), ?_⟩
      rw [hafter]
      exact happend.trans (.refl _)
    · rw [ha] at hlength
      have hafter : m.after = _ := h
      let taken : Session Memory.Connection Memory.Statement :=
        { s with
          statement := (Writer.append Memory.backend x.plan.columnTypes r s.statement w).state.1
          pending := s.pending + 1 }
      obtain ⟨executions, hexecutions, hexecute⟩ :=
        records_execute (s := taken) ((congrArg (· + 1) hcount).trans hlength.symm)
          (Nat.succ_le_of_lt hroom) x.stats.write
          (Writer.append Memory.backend x.plan.columnTypes r s.statement w).state.2
      refine ⟨_, .worked hworking hphase (congrArg (·.1.phase) hafter)
        (hsegment executions hexecutions), ?_⟩
      rw [hafter]
      exact happend.trans hexecute

lemma flush_emission [Url.Names] (hx : Consistent Memory.backend x) (w : Memory.World) :
    let m := moment Memory.backend Toggle.apply (.call .flush) (x, w)
    ∃ events, Emission x.plan m events ∧ Records w events m.after.2 := by
  intro m
  cases hs : x.session? with
  | none =>
    have hidle : working m = false := by simp [working, m, moment, hs]
    exact still_of_eq hidle (congrArg (·.state) (flush_of_session_none Memory.backend hs w))
  | some s =>
    have hphase := session?_eq_some.mp hs
    obtain ⟨hcount, hroom⟩ := hx s hphase
    have hworking : working m = true := by simp [working, m, moment, hs]
    have hafter : m.after = x.resume (Writer.execute Memory.backend s x.stats w).state :=
      congrArg (·.state) (flush_of_active Memory.backend hphase w)
    obtain ⟨executions, hexecutions, hexecute⟩ :=
      records_execute hcount (Nat.le_of_lt hroom) x.stats w
    have hsegment : Segment x.plan.batchSize m executions := .other (by simp [m]) hexecutions
    refine ⟨executions, .worked hworking hphase (congrArg (·.1.phase) hafter) hsegment, ?_⟩
    rw [hafter]
    exact hexecute

lemma close_emission [Url.Names] (hx : Consistent Memory.backend x) (w : Memory.World) :
    let m := moment Memory.backend Toggle.apply (.call .close) (x, w)
    ∃ events, Emission x.plan m events ∧ Records w events m.after.2 := by
  intro m
  have hafter : m.after.1.phase = .closed := close_phase Memory.backend x w
  cases hphase : x.phase with
  | unopened =>
    have hidle : working m = false := by simp [working, m, moment, Writer.session?, hphase]
    have hworld : m.after.2 = w := by simp [m, moment, perform, Writer.close, hphase]
    refine ⟨[], .unused hidle hphase hafter, ?_⟩
    rw [hworld]
    exact .refl w
  | closed =>
    have hidle : working m = false := by simp [working, m, moment, Writer.session?, hphase]
    have hsame : m.after = (x, w) := by simp [m, moment, perform, Writer.close, hphase]
    exact still_of_eq hidle hsame
  | active s =>
    obtain ⟨hcount, hroom⟩ := hx s hphase
    have hworking : working m = true := by simp [working, m, moment, Writer.session?, hphase]
    obtain ⟨executions, hexecutions, hexecute⟩ :=
      records_execute hcount (Nat.le_of_lt hroom) x.stats w
    let batch := Writer.closeBatch Memory.backend s x.stats w
    have hbatch : Records w executions batch.state.2.2 := by
      rw [show batch.state = _ from closeBatch_state Memory.backend s x.stats w]
      exact hexecute
    have hstatement := hbatch.trans (records_closeStatement batch.state.1 batch.state.2.2)
    have hconnection := hstatement.trans (records_closeConnection s.connection _)
    have hsegment : Segment x.plan.batchSize m executions := .other (by simp [m]) hexecutions
    refine ⟨_, .closed hworking hphase hafter hsegment, ?_⟩
    have hworld : m.after.2 = _ := (close_of_active Memory.backend hphase w).1
    rw [hworld]
    rwa [hstatement.permitted_eq, hbatch.permitted_eq] at hconnection

end Steps

/-- A step adds one emission to the journal. -/
theorem moment_emission [Url.Names] {x : MemoryWriter} (hx : Consistent Memory.backend x)
    (hmemory : ∀ d, x.registry.find? x.plan.driver = some d → d = Memory.driver)
    (step : Step Toggle) (w : Memory.World) :
    let m := moment Memory.backend Toggle.apply step (x, w)
    ∃ events, Emission x.plan m events ∧
      m.after.2.journal.events.toList = w.journal.events.toList ++ events := by
  intro m
  cases step with
  | outside t =>
    have hjournal : m.after.2.journal = w.journal := by cases t <;> rfl
    refine ⟨[], .still (by simp [working, m, moment]) rfl, ?_⟩
    rw [hjournal, List.append_nil]
  | call c =>
    have h : ∃ events, Emission x.plan m events ∧ Records w events m.after.2 := by
      cases c with
      | start index total => exact start_emission index total hmemory w
      | write r => exact write_emission r hx w
      | flush => exact flush_emission hx w
      | close => exact close_emission hx w
    obtain ⟨events, hemission, hrecords⟩ := h
    exact ⟨events, hemission, hrecords.events⟩

/-! ### The journal of a run -/

lemma attempt_of_connected (plan : Plan) (w : Memory.World) :
    Attempt plan (connected plan :: permitted w .closeConnection .closeConnection) := by
  unfold Attempt permitted
  split
  · exact .inl rfl
  · exact .inr rfl

lemma sublist_closing (w : Memory.World) :
    (permitted w .closeStatement .closeStatement ++
      permitted w .closeConnection .closeConnection).Sublist
      [.closeStatement, .closeConnection] := by
  have hsingle (c : Call) (e : Event) : (permitted w c e).Sublist [e] := by
    unfold permitted
    split
    · exact List.nil_sublist _
    · exact List.Sublist.refl _
  exact (hsingle _ _).append (hsingle _ _)

lemma Protocol.next {plan : Plan} {past : List MemoryMoment} {m : MemoryMoment}
    {events new : List Event}
    (h : Protocol plan (past.filter working) m.before.1.phase events) (hm : Emission plan m new) :
    Protocol plan ((past ++ [m]).filter working) m.after.1.phase (events ++ new) := by
  have hidle (hidle : working m = false) : (past ++ [m]).filter working = past.filter working := by
    simp [hidle]
  have hworking (hworking : working m = true) :
      (past ++ [m]).filter working = past.filter working ++ [m] := by
    simp [hworking]
  generalize past.filter working = calls at *
  -- An emission names the phase that it finds, and the phase leaves one form for the journal so far.
  cases hm with
  | still hnone hphase =>
    rw [hidle hnone, hphase, List.append_nil]
    exact h
  | attempted hnone hbefore hafter =>
    rw [hbefore] at h
    rw [hidle hnone, hafter]
    cases h with
    | @unopened attempts hattempts =>
      let attempt := connected plan :: permitted m.before.2 .closeConnection .closeConnection
      have hall : ∀ a ∈ attempts ++ [attempt], Attempt plan a :=
        List.forall_mem_append.mpr ⟨hattempts, List.forall_mem_singleton.mpr
          (attempt_of_connected plan m.before.2)⟩
      have hflatten : (attempts ++ [attempt]).flatten = attempts.flatten ++ attempt := by simp
      rw [← hflatten]
      exact .unopened hall
  | @opened s hnone hbefore hafter =>
    rw [hbefore] at h
    rw [hidle hnone, hafter]
    cases h with
    | unopened hattempts =>
      rw [← List.append_nil (_ ++ opened plan)]
      exact .active s hattempts .nil
  | unused hnone hbefore hafter =>
    rw [hbefore] at h
    rw [hidle hnone, hafter, List.append_nil]
    cases h with
    | unopened hattempts => exact .unused hattempts
  | @worked s s' new hcall hbefore hafter hsegment =>
    rw [hbefore] at h
    rw [hworking hcall, hafter]
    cases h with
    | active s hattempts hsegments =>
      have hall := List.rel_append hsegments (.cons hsegment .nil)
      have hevents := Protocol.active s' hattempts hall
      rw [List.flatten_append, List.flatten_singleton, ← List.append_assoc] at hevents
      exact hevents
  | @closed s new hcall hbefore hafter hsegment =>
    rw [hbefore] at h
    rw [hworking hcall, hafter]
    cases h with
    | active s hattempts hsegments =>
      have hall := List.rel_append hsegments (.cons hsegment .nil)
      have hevents := Protocol.closed hattempts hall (sublist_closing m.before.2)
      rw [List.flatten_append, List.flatten_singleton] at hevents
      simp only [List.append_assoc] at hevents ⊢
      exact hevents

/-! ### Closing what was opened -/

/-- Statements that were prepared. -/
def prepares (j : Memory.Journal) : Nat := j.count fun | .prepare _ => true | _ => false

/-- All that was opened was closed, but for what the writer holds. -/
structure Settled (x : MemoryWriter) (j : Memory.Journal) : Prop where
  connections :
    j.connects = j.connectionsClosed + if (fieldsOf x).connection.isSome then 1 else 0
  statements : prepares j = j.statementsClosed + if (fieldsOf x).statement.isSome then 1 else 0

/-- Neither statements nor connections fail to close. -/
def Closes (w : Memory.World) : Prop :=
  Call.closeStatement ∉ w.faults ∧ Call.closeConnection ∉ w.faults

instance (w : Memory.World) : Decidable (Closes w) := inferInstanceAs (Decidable (_ ∧ _))

/-- Events of rows, which neither open nor close anything. -/
def ofRows : Event → Bool
  | .bind _ _ | .addBatch | .executeBatch _ => true
  | _ => false

lemma Segment.all_ofRows {batchSize : Nat} {m : MemoryMoment} {events : List Event}
    (h : Segment batchSize m events) : ∀ e ∈ events, ofRows e = true := by
  have hbindings (index : Nat) (params : List Sql.Param) :
      ∀ e ∈ bindings index params, ofRows e = true := by
    induction params generalizing index with
    | nil => simp [bindings]
    | cons p params ih => simpa [bindings, ofRows] using ih (index + 1)
  have hexecutions {executions : List Event} (h : Executions batchSize executions) :
      ∀ e ∈ executions, ofRows e = true := by
    cases h <;> simp [ofRows]
  cases h with
  | write _ _ _ h =>
    refine List.forall_mem_append.mpr ⟨List.forall_mem_append.mpr ⟨hbindings 0 _, ?_⟩, hexecutions h⟩
    split <;> simp [ofRows]
  | other _ h => exact hexecutions h

/-- A journal of these events alone. -/
def journalOf (events : List Event) : Memory.Journal := ⟨events.toArray, #[]⟩

lemma count_append {j j' : Memory.Journal} {new : List Event}
    (h : j'.events.toList = j.events.toList ++ new) (p : Event → Bool) :
    j'.count p = j.count p + (journalOf new).count p := by
  simp only [Memory.Journal.count, ← Array.countP_toList, h, journalOf, List.countP_append]

lemma Segment.count_eq_zero {batchSize : Nat} {m : MemoryMoment} {events : List Event}
    (h : Segment batchSize m events) {p : Event → Bool}
    (hp : ∀ e, ofRows e = true → ¬ p e = true) :
    (journalOf events).count p = 0 := by
  rw [Memory.Journal.count, ← Array.countP_toList, List.countP_eq_zero]
  intro e he
  exact hp e (h.all_ofRows e he)

/-- Of what is opened or was held before, all is closed or held afterwards. -/
structure Shifts (events : List Event) (holds holds' : Bool) : Prop where
  connections : (journalOf events).connects + holds.toNat =
    (journalOf events).connectionsClosed + holds'.toNat
  statements : prepares (journalOf events) + holds.toNat =
    (journalOf events).statementsClosed + holds'.toNat

lemma Segment.shifts {batchSize : Nat} {m : MemoryMoment} {events rest : List Event}
    {holds holds' : Bool} (h : Segment batchSize m events) (hrest : Shifts rest holds holds') :
    Shifts (events ++ rest) holds holds' := by
  have hskip {p : Event → Bool} (hp : ∀ e, ofRows e = true → ¬ p e = true) :
      (journalOf (events ++ rest)).count p = (journalOf rest).count p := by
    have hsum : (journalOf (events ++ rest)).count p =
        (journalOf events).count p + (journalOf rest).count p := count_append rfl p
    rw [hsum, h.count_eq_zero hp, Nat.zero_add]
  have hconnects : (journalOf (events ++ rest)).connects = (journalOf rest).connects :=
    hskip fun e he => by cases e <;> simp_all [ofRows]
  have hclosed :
      (journalOf (events ++ rest)).connectionsClosed = (journalOf rest).connectionsClosed :=
    hskip fun e he => by cases e <;> simp_all [ofRows]
  have hprepares : prepares (journalOf (events ++ rest)) = prepares (journalOf rest) :=
    hskip fun e he => by cases e <;> simp_all [ofRows]
  have hdone : (journalOf (events ++ rest)).statementsClosed = (journalOf rest).statementsClosed :=
    hskip fun e he => by cases e <;> simp_all [ofRows]
  constructor
  case connections => rw [hconnects, hclosed, hrest.connections]
  case statements => rw [hprepares, hdone, hrest.statements]

lemma permitted_of_closes {w : Memory.World} (h : Closes w) :
    permitted w .closeStatement .closeStatement = [.closeStatement] ∧
      permitted w .closeConnection .closeConnection = [.closeConnection] := by
  simp [permitted, h.1, h.2]

/-- What was opened and closed agrees with what is held as long as they change alike. -/
lemma Settled.append {x x' : MemoryWriter} {j j' : Memory.Journal} {new : List Event}
    {holds holds' : Bool} (h : Settled x j) (hnew : j'.events.toList = j.events.toList ++ new)
    (hx : x.session?.isSome = holds) (hx' : x'.session?.isSome = holds')
    (hshifts : Shifts new holds holds') : Settled x' j' := by
  obtain ⟨hconnections, hstatements⟩ := hshifts
  have hconnects : j'.connects = j.connects + (journalOf new).connects := count_append hnew _
  have hclosed : j'.connectionsClosed = j.connectionsClosed + (journalOf new).connectionsClosed :=
    count_append hnew _
  have hprepares : prepares j' = prepares j + prepares (journalOf new) := count_append hnew _
  have hdone : j'.statementsClosed = j.statementsClosed + (journalOf new).statementsClosed :=
    count_append hnew _
  have hheld (x : MemoryWriter) :
      (if (fieldsOf x).connection.isSome then 1 else 0) = x.session?.isSome.toNat ∧
        (if (fieldsOf x).statement.isSome then 1 else 0) = x.session?.isSome.toNat := by
    cases hs : x.session? <;> simp [fieldsOf, hs]
  constructor
  case connections =>
    have hbefore := h.connections
    rw [(hheld x).1, hx] at hbefore
    rw [(hheld x').1, hx']
    omega
  case statements =>
    have hbefore := h.statements
    rw [(hheld x).2, hx] at hbefore
    rw [(hheld x').2, hx']
    omega

lemma Settled.next {plan : Plan} {m : MemoryMoment} {new : List Event}
    (h : Settled m.before.1 m.before.2.journal) (hcloses : Closes m.before.2)
    (hm : Emission plan m new)
    (hevents : m.after.2.journal.events.toList = m.before.2.journal.events.toList ++ new) :
    Settled m.after.1 m.after.2.journal := by
  have hactive {x : MemoryWriter} {s : Session Memory.Connection Memory.Statement}
      (hx : x.phase = .active s) : x.session?.isSome = true := by
    simp [Writer.session?, hx]
  have hunopened {x : MemoryWriter} (hx : x.phase = .unopened) : x.session?.isSome = false := by
    simp [Writer.session?, hx]
  have hclosed {x : MemoryWriter} (hx : x.phase = .closed) : x.session?.isSome = false := by
    simp [Writer.session?, hx]
  obtain ⟨hstatement, hconnection⟩ := permitted_of_closes hcloses
  -- With the faults gone every emission is a list of known ends, whose events are counted by `rfl`.
  cases hm with
  | still _ hphase =>
    have hsame : m.after.1.session? = m.before.1.session? := by simp only [Writer.session?, hphase]
    exact h.append hevents rfl (congrArg Option.isSome hsame) ⟨rfl, rfl⟩
  | attempted _ hbefore hafter =>
    rw [hconnection] at hevents
    exact h.append hevents (hunopened hbefore) (hunopened hafter) ⟨rfl, rfl⟩
  | opened _ hbefore hafter =>
    exact h.append hevents (hunopened hbefore) (hactive hafter) ⟨rfl, rfl⟩
  | unused _ hbefore hafter =>
    exact h.append hevents (hunopened hbefore) (hclosed hafter) ⟨rfl, rfl⟩
  | worked _ hbefore hafter hsegment =>
    rw [← List.append_nil new] at hevents
    exact h.append hevents (hactive hbefore) (hactive hafter) (hsegment.shifts ⟨rfl, rfl⟩)
  | closed _ hbefore hafter hsegment =>
    rw [hstatement, hconnection, List.append_assoc] at hevents
    exact h.append hevents (hactive hbefore) (hclosed hafter) (hsegment.shifts ⟨rfl, rfl⟩)

/-- However a writer over the in-memory driver is used and whatever is made to fail, its journal is
that of failed attempts to open it, then of its opening, of every call while it was active in turn,
and of its closing. As long as closing is not made to fail, every connection and every statement is
either held or closed, once. -/
theorem journal_protocol [Url.Names] (plan : Plan)
    (registry : Registry (Driver Memory.World Memory.Connection))
    (hmemory : ∀ d, registry.find? plan.driver = some d → d = Memory.driver) (faults : List Call)
    (pace : Duration) (steps : List (Step Toggle)) :
    let start : MemoryWriter × Memory.World := (.ofPlan plan registry, ⟨.empty, faults, pace⟩)
    let past := history Memory.backend Toggle.apply steps start
    let state := run Memory.backend Toggle.apply steps start
    Protocol plan (past.filter working) state.1.phase state.2.journal.events.toList ∧
      ((∀ m ∈ past, Closes m.before.2) → Settled state.1 state.2.journal) := by
  intro start past state
  -- The count of records has to agree with the batch for the executions to be of the right size.
  let Q (past : List MemoryMoment) (s : MemoryWriter × Memory.World) : Prop :=
    Consistent Memory.backend s.1 ∧ s.1.plan = plan ∧ s.1.registry = registry ∧
      Protocol plan (past.filter working) s.1.phase s.2.journal.events.toList ∧
      ((∀ m ∈ past, Closes m.before.2) → Settled s.1 s.2.journal)
  have hinitial : Q [] start := by
    refine ⟨consistent_of_session_none rfl, rfl, rfl, ?_, fun _ => ⟨rfl, rfl⟩⟩
    exact @Protocol.unopened plan [] (List.forall_mem_nil _)
  have hnext : ∀ past s step, Q past s →
      Q (past ++ [moment Memory.backend Toggle.apply step s])
        (moment Memory.backend Toggle.apply step s).after := by
    rintro past ⟨x, w⟩ step ⟨hx, rfl, rfl, hprotocol, hsettled⟩
    obtain ⟨hplan, hregistry⟩ := run_fixed Memory.backend Toggle.apply [step] (x, w)
    obtain ⟨new, hemission, hevents⟩ := moment_emission hx hmemory step w
    refine ⟨consistent_run lawful_memory Toggle.apply [step] (x, w) hx, hplan, hregistry, ?_, ?_⟩
    · rw [hevents]
      refine Protocol.next ?_ hemission
      rw [moment_before]
      exact hprotocol
    · intro hcloses
      obtain ⟨hpast, hlast⟩ := List.forall_mem_append.mp hcloses
      refine Settled.next (m := moment Memory.backend Toggle.apply step (x, w)) ?_ ?_ hemission ?_
      · rw [moment_before]
        exact hsettled hpast
      · exact hlast _ (List.mem_singleton_self _)
      · rw [moment_before]
        exact hevents
  exact (run_induction Memory.backend Toggle.apply _ Q hinitial hnext steps).2.2.2

/-- Preparing fails at first; then the writer is opened, fills a batch and is closed. -/
def openedTwice : List (Step Toggle) :=
  [.call (.start 0 1), .outside (.recover .prepare), .call (.start 0 1), .call (.write ⟨[.int32 1]⟩),
    .call (.write ⟨[.int32 2]⟩), .call .flush, .call .close]

open scoped Url.European

/-- Both connections are closed again. -/
theorem journal_protocol_opened_twice :
    let past : List MemoryMoment :=
      history Memory.backend Toggle.apply openedTwice
        (.ofPlan pairsPlan memoryOnly, Memory.World.start.fail .prepare)
    let state :=
      run Memory.backend Toggle.apply openedTwice
        (.ofPlan pairsPlan memoryOnly, Memory.World.start.fail .prepare)
    (∀ d, memoryOnly.find? pairsPlan.driver = some d → d = Memory.driver) ∧
      (∀ m ∈ past, Closes m.before.2) ∧
      Protocol pairsPlan (past.filter working) state.1.phase state.2.journal.events.toList ∧
      Settled state.1 state.2.journal ∧
      state.2.journal.connects = 2 ∧ (past.filter working).length = 4 := by
  have hmemory : ∀ d, memoryOnly.find? pairsPlan.driver = some d → d = Memory.driver := by
    intro d hd
    exact Option.some.inj (hd.symm.trans memoryOnly_find?)
  obtain ⟨hprotocol, hsettled⟩ :=
    journal_protocol pairsPlan memoryOnly hmemory [.prepare] ⟨0, 0⟩ openedTwice
  have hcloses : ∀ m ∈ history Memory.backend Toggle.apply openedTwice
      (.ofPlan pairsPlan memoryOnly, Memory.World.start.fail .prepare), Closes m.before.2 := by
    decide +kernel
  exact ⟨hmemory, hcloses, hprotocol, hsettled hcloses, by decide +kernel, by decide +kernel⟩

end BatchInsert.Proofs
