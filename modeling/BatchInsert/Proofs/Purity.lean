import BatchInsert.Proofs.Journal
import BatchInsert.Proofs.Leftover
import BatchInsert.Url.European
import Mathlib.Data.List.Flatten

/-!
# What is in a row

Over the in-memory backend the row of a record holds the parameters of its own fields, and after
them what the records rejected before it have left at later positions. It is the record's own row
unless a record rejected since the last row had more parameters bound than this one has fields.
-/

namespace BatchInsert.Proofs

open Database (Backend Driver)
open Memory (Row)
open Writer (Session)

lemma taken?_eq {types : Option (List Sql.Tag)} {r : Record} {s : Memory.Statement} {old : Row}
    {room : Option Nat} (hs : memorySlots s = .holding old room) {w : Memory.World} {row : Row}
    (hrow : taken? (Writer.append Memory.backend types r s w) = some row) :
    ∃ own, rowOf types r = .ok own ∧ row = overlay own old := by
  have hadd := (addBatch_keeps (Binding.record Memory.backend types r s w).state.1
    (Binding.record Memory.backend types r s w).state.2).1
  dsimp only [taken?] at hrow
  rcases append_slots lawful_memory types r hs w with ⟨own, hok, hown, _, hbound, _⟩ | ⟨f, hf, _⟩
  · refine ⟨own, hown, ?_⟩
    rcases append_cases Memory.backend types r s w with
      ⟨g, _, h, _⟩ | ⟨e, _, _, h, _⟩ | ⟨_, ha, h, hst⟩
    · simp [hok] at h
    · simp [hok] at h
    · have hcurrent : (Binding.record Memory.backend types r s w).state.1.current =
          numbered 1 (overlay own old) := congrArg Slots.bound hbound
      rw [ha, hcurrent, map_snd_numbered] at hadd
      rw [h, hst, hadd] at hrow
      simpa using hrow.symm
  · rw [hf] at hrow
    cases hrow

lemma executed_sublist {w₀ : Memory.World} {past : List MemoryMoment}
    {executions : List Execution} {state : MemoryWriter × Memory.World}
    (h : Conserved w₀ past executions state) :
    ∃ executed, state.2.journal.batches.toList = w₀.journal.batches.toList ++ executed ∧
      executed.flatten.Sublist (past.filterMap movedRow) := by
  refine ⟨_, h.executed, ?_⟩
  rw [h.rows, List.flatMap_def]
  have hsome := (List.filter_sublist (p := Execution.succeeded) (l := executions)).map
    Execution.rows
  exact hsome.flatten.trans (List.sublist_append_left _ _)

lemma movedRow_eq [Url.Names] (registry : Registry (Driver Memory.World Memory.Connection))
    (plan : Plan) (w : Memory.World) (steps : List (Step Toggle)) (step : Step Toggle) {row : Row} :
    let past := history Memory.backend Toggle.apply steps (.ofPlan plan registry, w)
    let state := run Memory.backend Toggle.apply steps (.ofPlan plan registry, w)
    movedRow (moment Memory.backend Toggle.apply step state) = some row →
    ∃ r own, step = .call (.write r) ∧ rowOf plan.columnTypes r = .ok own ∧
      row = overlay own (leftover plan.columnTypes (rejections past)) ∧
      (row = own ↔ ∀ e ∈ rejections past, e.count ≤ r.arity) := by
  intro past state hrow
  have hplan : state.1.plan = plan :=
    (run_fixed Memory.backend Toggle.apply steps (.ofPlan plan registry, w)).1
  have hretained : Retained memorySlots (rejections past) state.1 :=
    retained_run lawful_memory Toggle.apply steps rfl w
  unfold movedRow at hrow
  rw [moment_step, moment_before] at hrow
  split at hrow
  · rename_i r s hs
    obtain ⟨room, hslots, hfits⟩ := hretained s (session?_eq_some.mp hs)
    rw [hplan] at hrow hslots hfits
    obtain ⟨own, hown, heq⟩ := taken?_eq hslots hrow
    refine ⟨r, own, rfl, hown, heq, ?_⟩
    have hlength : own.length = r.arity := ((rowOf_eq_ok_iff _ r own).mp hown).2
    rw [heq, overlay_eq_self_iff, hlength]
    exact length_leftover_le_iff hfits r.arity
  · cases hrow

/-- Over the in-memory backend, whatever is called and whichever faults come and go: every row in an
executed batch was moved by the write of one record, and it is the row of that record on top of
what the records rejected since the last row have left. It is the row of that record alone exactly
when none of them had more parameters bound than the record has fields. -/
theorem executed_rows [Url.Names] (plan : Plan)
    (registry : Registry (Driver Memory.World Memory.Connection))
    (hmemory : ∀ d, registry.find? plan.driver = some d → d = Memory.driver) (w : Memory.World)
    (steps : List (Step Toggle)) :
    let past := history Memory.backend Toggle.apply steps (.ofPlan plan registry, w)
    let state := run Memory.backend Toggle.apply steps (.ofPlan plan registry, w)
    (∃ executed, state.2.journal.batches.toList = w.journal.batches.toList ++ executed ∧
      executed.flatten.Sublist (past.filterMap movedRow)) ∧
    ∀ earlier m later row, past = earlier ++ m :: later → movedRow m = some row →
      ∃ r own, m.step = .call (.write r) ∧ rowOf plan.columnTypes r = .ok own ∧
        row = overlay own (leftover plan.columnTypes (rejections earlier)) ∧
        (row = own ↔ ∀ e ∈ rejections earlier, e.count ≤ r.arity) := by
  intro past state
  have hfresh : Consistent Memory.backend (Writer.ofPlan plan registry : MemoryWriter) :=
    consistent_of_session_none rfl
  obtain ⟨executions, hconserved⟩ :=
    conserved_run (conserved_empty plan registry w) hfresh hmemory steps
  refine ⟨executed_sublist hconserved, ?_⟩
  intro earlier m later row hpast hrow
  obtain ⟨first, step, rest, _, rfl, rfl⟩ :=
    history_eq_append_cons Memory.backend Toggle.apply hpast
  rw [moment_step]
  exact movedRow_eq registry plan w first step hrow

/-- Three integers to a row, one row to a batch. -/
def triplesPlan : Plan :=
  ⟨"memory", "jdbc:test", none, "INSERT INTO t VALUES (?,?,?)", 1,
    some (List.replicate 3 (.standard .integer)), by decide⟩

/-- The third field of the first record is no integer; the second record has one field only. -/
def shortAfterRejected : List (Step Toggle) :=
  [.call (.start 0 1), .call (.write ⟨[.int32 1, .int32 2, .string "x"]⟩),
    .call (.write ⟨[.int32 9]⟩), .call .close]

def integer? : Sql.Param → Option Int32
  | .typed _ (.int n) => some n
  | _ => none

open scoped Url.European

def rejectedPast : List MemoryMoment :=
  history Memory.backend Toggle.apply shortAfterRejected (.ofPlan triplesPlan memoryOnly, .start)

def rejectedState : MemoryWriter × Memory.World :=
  run Memory.backend Toggle.apply shortAfterRejected (.ofPlan triplesPlan memoryOnly, .start)

theorem executed_rows_after_rejection :
    (∀ d, memoryOnly.find? triplesPlan.driver = some d → d = Memory.driver) ∧
    (∃ executed, rejectedState.2.journal.batches.toList =
        Memory.World.start.journal.batches.toList ++ executed ∧
      executed.flatten.Sublist (rejectedPast.filterMap movedRow)) ∧
    ∀ earlier m later row, rejectedPast = earlier ++ m :: later → movedRow m = some row →
      ∃ r own, m.step = .call (.write r) ∧ rowOf triplesPlan.columnTypes r = .ok own ∧
        row = overlay own (leftover triplesPlan.columnTypes (rejections earlier)) ∧
        (row = own ↔ ∀ e ∈ rejections earlier, e.count ≤ r.arity) := by
  have hmemory : ∀ d, memoryOnly.find? triplesPlan.driver = some d → d = Memory.driver := by
    intro d hd
    exact Option.some.inj (hd.symm.trans memoryOnly_find?)
  exact ⟨hmemory, executed_rows triplesPlan memoryOnly hmemory .start shortAfterRejected⟩

/-- The second field of the rejected record goes out with the record after it. -/
theorem executed_row_of_two_records :
    ∃ row, rejectedState.2.journal.batches.toList = [[row]] ∧
      row.map integer? = [some 9, some 2] ∧
      ∀ r, Step.call (.write r) ∈ shortAfterRejected →
        rowOf triplesPlan.columnTypes r ≠ .ok row := by
  have hbatches : rejectedState.2.journal.batches.toList.map (·.map (·.map integer?)) =
      [[[some 9, some 2]]] := by
    decide +kernel
  obtain ⟨batch, hbatch, hrows⟩ := List.map_eq_singleton_iff.mp hbatches
  obtain ⟨row, rfl, hrow⟩ := List.map_eq_singleton_iff.mp hrows
  refine ⟨row, hbatch, hrow, ?_⟩
  intro r hr hown
  have hlength : row.length = r.arity := ((rowOf_eq_ok_iff _ r row).mp hown).2
  have htwo : row.length = 2 := by simpa using congrArg List.length hrow
  simp only [shortAfterRejected, List.mem_cons, Step.call.injEq, Command.write.injEq, reduceCtorEq,
    List.not_mem_nil, or_false, false_or] at hr
  rcases hr with rfl | rfl
  · simp [Record.arity, htwo] at hlength
  · simp [Record.arity, htwo] at hlength

end BatchInsert.Proofs
