import BatchInsert.Writer
import Mathlib.Data.List.Induction

/-!
# Runs of a writer

A run is a list of steps: calls on the writer, and changes of the world that others make between
them. Its history keeps every step with the state that it found, what was answered, and the state
that it left. What holds at first and is kept by every step holds after every run.
-/

namespace BatchInsert.Proofs

open Database (Backend)
open Writer (CloseReport)

/-- A call on a writer. -/
inductive Command
  | start (index total : Nat)
  | write (r : Record)
  | flush
  | close

inductive Answer
  | started (result : Except OpenFailure Unit)
  | written (result : Except WriteFailure Unit)
  | flushed (result : Except WriteFailure Unit)
  | closed (report : CloseReport)

/-- A call, or a change `ι` of the world that the writer has no part in. -/
inductive Step (ι : Type)
  | call (c : Command)
  | outside (i : ι)

variable {ω κ τ ι : Type}

/-- What a call comes to. -/
structure Reaction (ω κ τ : Type) where
  answer : Answer
  state : Writer ω κ τ × ω
  log : List Log.Entry

def perform [Url.Names] (b : Backend ω κ τ) : Command → Writer ω κ τ × ω → Reaction ω κ τ
  | .start index total, (x, w) =>
    let reply := x.start b index total w
    ⟨.started reply.result, reply.state, reply.log⟩
  | .write r, (x, w) =>
    let reply := x.write b r w
    ⟨.written reply.result, reply.state, reply.log⟩
  | .flush, (x, w) =>
    let reply := x.flush b w
    ⟨.flushed reply.result, reply.state, reply.log⟩
  | .close, (x, w) =>
    let closing := x.close b w
    ⟨.closed closing.report, closing.state, closing.log⟩

/-- One step of a run. A change from outside has no answer. -/
structure Moment (ω κ τ ι : Type) where
  step : Step ι
  before : Writer ω κ τ × ω
  answer : Option Answer
  after : Writer ω κ τ × ω
  log : List Log.Entry

section Runs

variable (b : Backend ω κ τ) (act : ι → ω → ω)

def moment [Url.Names] (step : Step ι) (state : Writer ω κ τ × ω) : Moment ω κ τ ι :=
  match step with
  | .call c =>
    let reaction := perform b c state
    ⟨step, state, some reaction.answer, reaction.state, reaction.log⟩
  | .outside i => ⟨step, state, none, (state.1, act i state.2), []⟩

@[simp] lemma moment_step [Url.Names] (step : Step ι) (state : Writer ω κ τ × ω) :
    (moment b act step state).step = step := by
  cases step <;> rfl

@[simp] lemma moment_before [Url.Names] (step : Step ι) (state : Writer ω κ τ × ω) :
    (moment b act step state).before = state := by
  cases step <;> rfl

def run [Url.Names] : List (Step ι) → Writer ω κ τ × ω → Writer ω κ τ × ω
  | [], state => state
  | step :: steps, state => run steps (moment b act step state).after

def history [Url.Names] : List (Step ι) → Writer ω κ τ × ω → List (Moment ω κ τ ι)
  | [], _ => []
  | step :: steps, state =>
    moment b act step state :: history steps (moment b act step state).after

lemma run_append [Url.Names] (steps more : List (Step ι)) (state : Writer ω κ τ × ω) :
    run b act (steps ++ more) state = run b act more (run b act steps state) := by
  induction steps generalizing state with
  | nil => rfl
  | cons step steps ih => exact ih _

lemma history_append [Url.Names] (steps more : List (Step ι)) (state : Writer ω κ τ × ω) :
    history b act (steps ++ more) state =
      history b act steps state ++ history b act more (run b act steps state) := by
  induction steps generalizing state with
  | nil => rfl
  | cons step steps ih =>
    rw [List.cons_append, history, history, ih, List.cons_append, run]

/-- The moments of a run, split at any one of them: it is the step that the earlier ones lead to. -/
lemma history_eq_append_cons [Url.Names] {steps : List (Step ι)} {state : Writer ω κ τ × ω}
    {earlier later : List (Moment ω κ τ ι)} {m : Moment ω κ τ ι}
    (h : history b act steps state = earlier ++ m :: later) :
    ∃ first step rest, steps = first ++ step :: rest ∧ earlier = history b act first state ∧
      m = moment b act step (run b act first state) := by
  induction earlier generalizing steps state with
  | nil =>
    cases steps with
    | nil => simp [history] at h
    | cons step steps =>
      simp only [history, List.nil_append, List.cons.injEq] at h
      exact ⟨[], step, steps, rfl, rfl, h.1.symm⟩
  | cons e earlier ih =>
    cases steps with
    | nil => simp [history] at h
    | cons step steps =>
      simp only [history, List.cons_append, List.cons.injEq] at h
      obtain ⟨first, step', rest, rfl, he, hm⟩ := ih h.2
      exact ⟨step :: first, step', rest, rfl, by rw [history, ← he, h.1], hm⟩

/-- What holds of the empty history and is kept when one more step is taken holds of every run. -/
theorem run_induction [Url.Names] (state : Writer ω κ τ × ω)
    (P : List (Moment ω κ τ ι) → Writer ω κ τ × ω → Prop) (initial : P [] state)
    (next : ∀ past s step, P past s →
      P (past ++ [moment b act step s]) (moment b act step s).after)
    (steps : List (Step ι)) : P (history b act steps state) (run b act steps state) := by
  -- The last step is split off, so that `next` meets the history of all the steps before it.
  induction steps using List.reverseRecOn with
  | nil => exact initial
  | append_singleton steps step ih =>
    rw [history_append, run_append]
    exact next _ _ step ih

end Runs

end BatchInsert.Proofs
