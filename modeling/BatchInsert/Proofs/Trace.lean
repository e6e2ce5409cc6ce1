import BatchInsert.Proofs.Simulation

/-!
# The calls that a writer makes

A backend that writes down every call that it passes on. Writing them down changes nothing: a run
over it answers, logs and leaves what the run over the backend itself does.
-/

namespace BatchInsert.Proofs

open Database (Backend Call Driver Reply)

variable {ω κ τ ι : Type}

/-- A world, and the calls made in it in their order. -/
structure Traced (ω : Type) where
  world : ω
  calls : List Call

namespace Traced

/-- The world that a call leaves, with the call written down. -/
def after (w : Traced ω) (c : Call) (world : ω) : Traced ω := ⟨world, w.calls ++ [c]⟩

def driver (d : Driver ω κ) : Driver (Traced ω) κ where
  name := d.name
  connect t w := (d.connect t w.world).mapState (w.after .connect)

def registry (r : Registry (Driver ω κ)) : Registry (Driver (Traced ω) κ) :=
  ⟨r.entries.map fun (name, d) => (name, driver d)⟩

def backend (b : Backend ω κ τ) : Backend (Traced ω) κ τ where
  prepare sql c w := (b.prepare sql c w.world).mapState (w.after .prepare)
  closeConnection c w :=
    (b.closeConnection c w.world).mapState (Prod.map id (w.after .closeConnection))
  bind position p s w := (b.bind position p s w.world).mapState (Prod.map id (w.after .bind))
  addBatch s w := (b.addBatch s w.world).mapState (Prod.map id (w.after .addBatch))
  executeBatch s w := (b.executeBatch s w.world).mapState (Prod.map id (w.after .executeBatch))
  closeStatement s w :=
    (b.closeStatement s w.world).mapState (Prod.map id (w.after .closeStatement))
  batchLength := b.batchLength
  sql := b.sql
  executionTime s w := b.executionTime s w.world

/-- A change of the world from outside is no call. -/
def outside (act : ι → ω → ω) (i : ι) (w : Traced ω) : Traced ω :=
  { w with world := act i w.world }

end Traced

lemma simulates_traced (b : Backend ω κ τ) : Simulates Traced.world (Traced.backend b) b := by
  constructor <;> intros <;> rfl

lemma find?_traced (r : Registry (Driver ω κ)) (query : String) :
    (Traced.registry r).find? query = (r.find? query).map Traced.driver :=
  Ordered.find?_map Traced.driver _ r.entries

section Runs

variable (b : Backend ω κ τ) (act : ι → ω → ω) (plan : Plan) (registry : Registry (Driver ω κ))

lemma alike_traced : Alike Traced.world
    (.ofPlan plan (Traced.registry registry) : Writer (Traced ω) κ τ) (.ofPlan plan registry) := by
  refine ⟨rfl, rfl, rfl, ?_⟩
  simp only [Writer.ofPlan, Registry.resolve, find?_traced]
  cases registry.find? plan.driver <;> rfl

/-- A run of a new writer over a world in which no calls were made. -/
def tracedRun [Url.Names] (steps : List (Step ι)) (w : ω) : Writer (Traced ω) κ τ × Traced ω :=
  run (Traced.backend b) (Traced.outside act) steps
    (.ofPlan plan (Traced.registry registry), ⟨w, []⟩)

/-- The calls that a run of a new writer makes on its driver, its connection and its statement. -/
def calls [Url.Names] (steps : List (Step ι)) (w : ω) : List Call :=
  (tracedRun b act plan registry steps w).2.calls

/-- Writing the calls down changes nothing that a run does. -/
theorem tracedRun_agrees [Url.Names] (steps : List (Step ι)) (w : ω) :
    let past := history (Traced.backend b) (Traced.outside act) steps
      (.ofPlan plan (Traced.registry registry), ⟨w, []⟩)
    let traced := tracedRun b act plan registry steps w
    let state := run b act steps (.ofPlan plan registry, w)
    List.Forall₂ (MomentsAgree Traced.world) past
        (history b act steps (.ofPlan plan registry, w)) ∧
      Alike Traced.world traced.1 state.1 ∧ traced.2.world = state.2 :=
  run_agrees (simulates_traced b) (fun _ _ => rfl) steps (alike_traced plan registry) ⟨w, []⟩

end Runs

end BatchInsert.Proofs
