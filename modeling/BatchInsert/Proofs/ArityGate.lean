import BatchInsert.Proofs.Leftover
import BatchInsert.Proofs.Pending
import BatchInsert.Url.European

/-!
# Records of another length than the row of a server

A statement of a server takes a row once a parameter is bound for each of its placeholders,
whichever record has bound it. A record that is too long never gets through. One that is too short
gets through exactly when its own fields can be bound and a record rejected before it has left a
whole row.
-/

namespace BatchInsert.Proofs

open Database (Backend Reply)
open Memory (Row)
open Writer (Session)

variable {ω κ τ ι σ σ' : Type} {b : Backend ω κ τ} {slots : τ → Slots}

lemma bindFrom_ok (hb : Lawful b slots) (types : Option (List Sql.Tag)) {n : Nat}
    (vs : List Value) {s : τ} (hs : (slots s).room = some n) (w : ω) {index : Nat}
    (hvs : (boundPrefix types index vs).length = vs.length) (hn : index + vs.length ≤ n) :
    (Binding.bindFrom b types s w index vs).result = .ok () := by
  induction vs generalizing s w index with
  | nil => rfl
  | cons v vs ih =>
    cases hp : Binding.param (index + 1) v (Binding.declared? types index) with
    | error f => simp [boundPrefix, hp] at hvs
    | ok p =>
      simp only [boundPrefix, hp, List.length_cons, Nat.add_right_cancel_iff] at hvs
      rw [List.length_cons] at hn
      have hbind : (b.bind (index + 1) p s w).result = .ok () :=
        (hb.bind_gate hs).mpr ⟨by omega, by omega⟩
      have hroom : (slots (b.bind (index + 1) p s w).state.1).room = some n := by
        rw [(hb.bind_ok hbind).1]
        exact hs
      simp only [Binding.bindFrom, hp, hbind, Reply.after]
      exact ih hroom _ hvs (by omega)

/-- A record of another length is taken only where what is left makes up a whole row. -/
theorem append_ok_iff (hb : Lawful b slots) (types : Option (List Sql.Tag)) (r : Record) {s : τ}
    {old : Row} {n : Nat} (hs : slots s = .holding old (some n)) (hold : old.length ≤ n)
    (hr : r.arity ≠ n) (w : ω) :
    (Writer.append b types r s w).result = .ok () ↔
      r.arity < n ∧ (∃ own, rowOf types r = .ok own) ∧ old.length = n := by
  have hgate {own : Row} (hbound : slots (Binding.record b types r s w).state.1 =
      .holding (overlay own old) (some n)) :
      (b.addBatch (Binding.record b types r s w).state.1
        (Binding.record b types r s w).state.2).result = .ok () ↔
        max own.length old.length = n := by
    rw [hb.add_gate (congrArg Slots.room hbound), hbound, Slots.holding, length_numbered,
      length_overlay]
  constructor
  · intro h
    rcases append_slots hb types r hs w with ⟨own, _, hown, hfits, hbound, _⟩ | ⟨f, hf, _⟩
    · have hlength : own.length = r.arity := ((rowOf_eq_ok_iff types r own).mp hown).2
      have hle := hfits n rfl
      rcases append_cases b types r s w with ⟨g, _, hg, _⟩ | ⟨e, _, _, he, _⟩ | ⟨_, ha, _, _⟩
      · simp [h] at hg
      · simp [h] at he
      · have hmax := (hgate hbound).mp ha
        exact ⟨by omega, ⟨own, hown⟩, by omega⟩
    · simp [h] at hf
  · rintro ⟨hlt, ⟨own, hown⟩, hfull⟩
    obtain ⟨hfields, hlength⟩ := (rowOf_eq_ok_iff types r own).mp hown
    have hroom : (slots s).room = some n := congrArg Slots.room hs
    have hrecord : (Binding.record b types r s w).result = .ok () :=
      bindFrom_ok hb types r.fields hroom w (by rw [hfields]; exact hlength)
        (by rw [Nat.zero_add]; exact Nat.le_of_lt hlt)
    have hnothing : slots s = .holding ([] ++ old) (some n) := hs
    have hbound : slots (Binding.record b types r s w).state.1 =
        .holding (overlay own old) (some n) := by
      rcases bindFrom_slots hb types r.fields hnothing (fun _ _ => Nat.zero_le _) w with
        ⟨_, _, h, _⟩ | ⟨f, _, h, _⟩
      · rw [← hfields]
        exact h
      · exact absurd (hrecord.symm.trans h) (by simp)
    have hadd := (hgate hbound).mpr (by omega)
    rcases append_cases b types r s w with ⟨g, hg, _⟩ | ⟨e, _, he, _⟩ | ⟨_, _, h, _⟩
    · simp [hrecord] at hg
    · simp [hadd] at he
    · exact h

/-- A rejection is answered and no row is added. -/
def Refused (b : Backend ω κ τ) (s : Session κ τ)
    (reply : Reply WriteFailure (Writer ω κ τ × ω) Unit) : Prop :=
  ∃ f s', reply.result = .error f ∧ isRejection f = true ∧
    reply.state.1.phase = .active s' ∧ s'.pending = s.pending ∧
    b.batchLength s'.statement = b.batchLength s.statement

lemma refused_iff (hb : Lawful b slots) (r : Record) {x : Writer ω κ τ} {s : Session κ τ}
    (hx : x.phase = .active s) (w : ω) :
    Refused b s (x.write b r w) ↔
      ¬ (Writer.append b x.plan.columnTypes r s.statement w).result = .ok () := by
  have hlength := batchLength_append hb x.plan.columnTypes r s.statement w
  rcases write_cases b r hx w with ⟨f, ha, hr, h⟩ | ⟨ha, _, hr, _⟩ | ⟨ha, _, hr, _⟩
  · rw [ha] at hlength
    refine iff_of_true ?_ (by simp [ha])
    let left : Session κ τ :=
      { s with statement := (Writer.append b x.plan.columnTypes r s.statement w).state.1 }
    exact ⟨f, left, hr, append_error_isRejection b _ ha, by rw [h]; rfl, rfl, hlength⟩
  · refine iff_of_false ?_ (by simp [ha])
    rintro ⟨f, _, hf, _⟩
    exact absurd (hr.symm.trans hf) (by simp)
  · refine iff_of_false ?_ (by simp [ha])
    rintro ⟨f, _, hf, hrejected, _⟩
    rw [hr] at hf
    rcases execute_result b _ _ _ with hexecuted | ⟨rows, e, hexecuted⟩
    · exact absurd (hexecuted.symm.trans hf) (by simp)
    · cases Except.error.inj (hexecuted.symm.trans hf)
      cases hrejected

/-- The placeholders of a statement of a server. -/
def placeholderCount? : Builtin.Statement → Option Nat
  | .memory _ => none
  | .postgres s => some s.placeholders.count
  | .mysql s => some s.placeholders.count

lemma room_builtinSlots (s : Builtin.Statement) : (builtinSlots s).room = placeholderCount? s := by
  cases s <;> rfl

/-- After any run of a writer over the built-in backends, whose statement is one of a server with
`n` placeholders: a record with another number of fields is refused, unless it is shorter, all its
fields can be bound, and a record that was rejected since the last row has left parameters for all
`n` placeholders. -/
theorem write_of_other_arity [Url.Names] (pg : Postgres.Server σ) (my : Mysql.Server σ')
    (plan : Plan) (registry : Registry (Database.Driver (Builtin.World σ σ') Builtin.Connection))
    (steps : List (Step (Builtin.World σ σ' → Builtin.World σ σ'))) (w : Builtin.World σ σ')
    (s : Session Builtin.Connection Builtin.Statement) (n : Nat) (r : Record) :
    let b := Builtin.backend pg my
    let past := history b id steps (.ofPlan plan registry, w)
    let state := run b id steps (.ofPlan plan registry, w)
    state.1.phase = .active s → placeholderCount? s.statement = some n → r.arity ≠ n →
    (¬ Refused b s (state.1.write b r state.2) ↔
      r.arity < n ∧ (∃ own, rowOf plan.columnTypes r = .ok own) ∧
        ∃ e ∈ rejections past, e.count = n) := by
  intro b past state hs hn hr
  have hb : Lawful b builtinSlots := lawful_builtin pg my
  have hplan : state.1.plan = plan := (run_fixed b id steps (.ofPlan plan registry, w)).1
  obtain ⟨room, hslots, hfits⟩ := retained_run hb id steps rfl w s hs
  have hroom : room = some n := by
    rw [← hn, ← room_builtinSlots, hslots]
    rfl
  subst hroom
  rw [hplan] at hslots hfits
  have hold : (leftover plan.columnTypes (rejections past)).length ≤ n :=
    (length_leftover_le_iff hfits n).mpr fun e he => (hfits e he).room n rfl
  rw [refused_iff hb r hs, not_not, hplan, append_ok_iff hb plan.columnTypes r hslots hold hr]
  refine and_congr_right fun hlt => and_congr_right fun _ => ?_
  exact length_leftover_eq_iff hfits (Nat.zero_lt_of_lt hlt)

/-- A server that takes everything, and whose statements have two placeholders. -/
def twoPlaceholders : Mysql.Server Unit where
  login _ s := (.ok 0, s)
  prepare _ _ s := (.ok 2, s)
  execute _ _ _ s := (.ok 1, s)
  discard _ _ s := (.ok (), s)
  logout _ s := (.ok (), s)
  executionTime _ _ _ _ := ⟨0, 0⟩

def mysqlPlan : Plan :=
  ⟨"mysql", "mysql://u@h/d", none, "INSERT INTO t VALUES (?,?)", 5, none, by decide⟩

open scoped Url.European

def mysqlRegistry : Registry (Database.Driver (Builtin.World Unit Unit) Builtin.Connection) :=
  Builtin.registry (Builtin.driver Postgres.unreachable twoPlaceholders)

/-- The record has one field too many. -/
def longRecord : List (Step (Builtin.World Unit Unit → Builtin.World Unit Unit)) :=
  [.call (.start 0 1), .call (.write ⟨[.int32 1, .int32 2, .int32 3]⟩)]

def afterLongRecord : Writer (Builtin.World Unit Unit) Builtin.Connection Builtin.Statement ×
    Builtin.World Unit Unit :=
  run (Builtin.backend Postgres.unreachable twoPlaceholders) id longRecord
    (.ofPlan mysqlPlan mysqlRegistry, ⟨.start, (), .start ()⟩)

lemma afterLongRecord_session :
    ∃ s, afterLongRecord.1.phase = .active s ∧ placeholderCount? s.statement = some 2 := by
  have h : afterLongRecord.1.session?.map (fun s => placeholderCount? s.statement) =
      some (some 2) := by
    decide +kernel
  obtain ⟨s, hs, hcount⟩ := Option.map_eq_some_iff.mp h
  exact ⟨s, session?_eq_some.mp hs, hcount⟩

/-- Another record with one field too many is refused as well. -/
theorem write_of_other_arity_too_long :
    ∃ s, afterLongRecord.1.phase = .active s ∧ placeholderCount? s.statement = some 2 ∧
      (⟨[.null, .null, .null]⟩ : Record).arity ≠ 2 ∧
      Refused (Builtin.backend Postgres.unreachable twoPlaceholders) s
        (afterLongRecord.1.write (Builtin.backend Postgres.unreachable twoPlaceholders)
          ⟨[.null, .null, .null]⟩ afterLongRecord.2) := by
  obtain ⟨s, hs, hcount⟩ := afterLongRecord_session
  have harity : (⟨[.null, .null, .null]⟩ : Record).arity ≠ 2 := by decide
  have h := write_of_other_arity Postgres.unreachable twoPlaceholders mysqlPlan mysqlRegistry
    longRecord ⟨.start, (), .start ()⟩ s 2 ⟨[.null, .null, .null]⟩ hs hcount harity
  refine ⟨s, hs, hcount, harity, ?_⟩
  by_contra hnot
  exact absurd (h.mp hnot).1 (by decide)

/-- A record with one field too few is taken: the second parameter is that of the record before. -/
theorem short_record_taken :
    ∃ s, afterLongRecord.1.phase = .active s ∧ placeholderCount? s.statement = some 2 ∧
      (⟨[.int32 9]⟩ : Record).arity ≠ 2 ∧
      (afterLongRecord.1.write (Builtin.backend Postgres.unreachable twoPlaceholders)
        ⟨[.int32 9]⟩ afterLongRecord.2).result = .ok () ∧
      (afterLongRecord.1.write (Builtin.backend Postgres.unreachable twoPlaceholders)
        ⟨[.int32 9]⟩ afterLongRecord.2).state.1.pending = 1 := by
  obtain ⟨s, hs, hcount⟩ := afterLongRecord_session
  exact ⟨s, hs, hcount, by decide, by decide +kernel, by decide +kernel⟩

end BatchInsert.Proofs
