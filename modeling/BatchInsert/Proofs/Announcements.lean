import BatchInsert.Proofs.BindingOrder
import BatchInsert.Proofs.Classification

/-!
# What is announced while a record is bound

A parameter that carries no type is announced by a warning before the statement is asked to bind it,
and nothing else is announced: neither a null nor a value under its type, nor a field that cannot be
bound for its type. A null is silent under any declared type, and announced where none is declared.
-/

namespace BatchInsert.Proofs

open Database (Backend Error Reply)
open Sql (Param Tag)

variable {ω κ τ : Type}

/-! ### The binds asked of a statement, with what it logs itself -/

/-- A world, and the binds that were asked in it in their order, each with what the statement has
logged of it. -/
structure Overheard (ω : Type) where
  world : ω
  calls : List (BindCall × List Log.Entry)

namespace Overheard

def here {σ : Type} (w : Overheard ω) : σ × ω → σ × Overheard ω :=
  Prod.map id fun world => { w with world }

def backend (b : Backend ω κ τ) : Backend (Overheard ω) κ τ where
  prepare sql c w := (b.prepare sql c w.world).mapState fun world => { w with world }
  closeConnection c w := (b.closeConnection c w.world).mapState w.here
  bind position p s w :=
    let reply := b.bind position p s w.world
    reply.mapState (Prod.map id fun world =>
      ⟨world, w.calls ++ [(⟨position, p, errorOf reply.result⟩, reply.log)]⟩)
  addBatch s w := (b.addBatch s w.world).mapState w.here
  executeBatch s w := (b.executeBatch s w.world).mapState w.here
  closeStatement s w := (b.closeStatement s w.world).mapState w.here
  batchLength := b.batchLength
  sql := b.sql
  executionTime s w := b.executionTime s w.world

/-- The binds alone. -/
def heard (w : Overheard ω) : Heard ω := ⟨w.world, w.calls.map Prod.fst⟩

end Overheard

lemma simulates_overheard (b : Backend ω κ τ) :
    Simulates Overheard.world (Overheard.backend b) b := by
  constructor <;> intros <;> rfl

lemma simulates_heard_overheard (b : Backend ω κ τ) :
    Simulates Overheard.heard (Overheard.backend b) (Heard.backend b) where
  prepare _ _ _ := rfl
  closeConnection _ _ := rfl
  bind position p s w := by
    simp only [Heard.backend, Overheard.backend, Overheard.heard, Reply.mapState, through,
      Prod.map, id_eq, List.map_append, List.map_cons, List.map_nil]
  addBatch _ _ := rfl
  executeBatch _ _ := rfl
  closeStatement _ _ := rfl
  executionTime _ _ := rfl

/-- The binds that are asked of a statement for a record, each with what the statement logs. -/
def overheard (b : Backend ω κ τ) (types : Option (List Tag)) (r : Record) (s : τ) (w : ω) :
    List (BindCall × List Log.Entry) :=
  (Binding.record (Overheard.backend b) types r s ⟨w, []⟩).state.2.calls

lemma map_fst_overheard (b : Backend ω κ τ) (types : Option (List Tag)) (r : Record) (s : τ)
    (w : ω) : (overheard b types r s w).map Prod.fst = bindCalls b types r s w := by
  have hheard := bindFrom_through (simulates_heard_overheard b) types s ⟨w, []⟩ 0 r.fields
  have hstart : (⟨w, []⟩ : Overheard ω).heard = ⟨w, []⟩ := rfl
  rw [hstart] at hheard
  unfold overheard bindCalls Binding.record
  rw [hheard]
  rfl

/-! ### Announcements -/

/-- The warning of a value that is bound as it is. It says which type is declared, if one is. -/
def warning (types : Option (List Tag)) (position : Nat) (v : Value) : Log.Event :=
  match types with
  | none => .undeclared position v
  | some tags => .untyped position (tags[position - 1]?.map Tag.normalize) v

/-- What is logged of a bind before it is asked. -/
def announcement (types : Option (List Tag)) (c : BindCall) : Option Log.Event :=
  match c.param with
  | .object v => some (warning types c.position v)
  | .null _ | .typed _ _ => none

/-- A warning that names a position and shows a value. -/
structure Names (e : Log.Event) (position : Nat) (v : Value) : Prop where
  level : e.level = .warn
  position : ("position", Text.decimal position) ∈ e.fields ∨
    ("column", Text.decimal position) ∈ e.fields
  value : ("value", v.text) ∈ e.fields

lemma names_warning (types : Option (List Tag)) (position : Nat) (v : Value) :
    Names (warning types position v) position v := by
  unfold warning
  cases types with
  | none => exact ⟨rfl, by simp [Log.Event.fields], by simp [Log.Event.fields]⟩
  | some tags => exact ⟨rfl, by simp [Log.Event.fields], by simp [Log.Event.fields]⟩

/-- The value at an index has no type to be bound under: none is declared for it, or one that is not
known. Under that a null still has a type. -/
def IsUntyped (types : Option (List Tag)) (index : Nat) (v : Value) : Prop :=
  match Binding.declared? types index with
  | none => True
  | some tag => v.isNull = false ∧ ∃ c, tag.normalize = .other c

section Field

variable {types : Option (List Tag)} {index : Nat} {v : Value} {p : Param}

lemma isUntyped_iff : IsUntyped types index v ↔
    Binding.param (index + 1) v (Binding.declared? types index) = .ok (.object v) := by
  unfold IsUntyped
  cases Binding.declared? types index with
  | none => exact iff_of_true trivial rfl
  | some tag =>
    constructor
    · rintro ⟨hv, c, hc⟩
      exact param_of_other hv hc
    · intro hp
      have hbound := boundAs_param (index + 1) v tag
      rw [hp] at hbound
      generalize hnormal : tag.normalize = normal at hbound
      cases hbound with
      | object hv hother => exact ⟨hv, _, hnormal.trans hother⟩

lemma notice_of_untyped (h : IsUntyped types index v) :
    Binding.notice types index v = some (warning types (index + 1) v) := by
  cases types with
  | none => rfl
  | some tags =>
    cases htag : tags[index]? with
    | none => simp [Binding.notice, warning, htag]
    | some tag =>
      simp only [IsUntyped, Binding.declared?, Option.bind_some, htag] at h
      obtain ⟨hv, c, hc⟩ := h
      simp [Binding.notice, Binding.tagNotice, warning, htag, hv, hc]

lemma notice_of_typed (h : ¬ IsUntyped types index v) :
    Binding.notice types index v = none := by
  cases types with
  | none => exact absurd trivial h
  | some tags =>
    cases htag : tags[index]? with
    | none => simp [IsUntyped, Binding.declared?, htag] at h
    | some tag =>
      simp only [IsUntyped, Binding.declared?, Option.bind_some, htag] at h
      simp only [Binding.notice, Binding.tagNotice, htag]
      cases hnormal : tag.normalize with
      | standard s => rfl
      | other c =>
        have hv : v.isNull = true := by
          by_contra hv
          exact h ⟨Bool.eq_false_of_not_eq_true hv, c, hnormal⟩
        simp only [hv, if_true]

lemma eq_of_param_object {u : Value}
    (hp : Binding.param (index + 1) v (Binding.declared? types index) = .ok (.object u)) :
    u = v := by
  cases htag : Binding.declared? types index with
  | none =>
    rw [htag] at hp
    exact (Param.object.inj (Except.ok.inj hp)).symm
  | some tag =>
    rw [htag] at hp
    have hbound := boundAs_param (index + 1) v tag
    rw [hp] at hbound
    exact hbound.unaltered.object u rfl

lemma announcement_of_param
    (hp : Binding.param (index + 1) v (Binding.declared? types index) = .ok p) (e : Option Error) :
    (p = .object v ↔ IsUntyped types index v) ∧
      (p = .object v → ∃ event, announcement types ⟨index + 1, p, e⟩ = some event ∧
        Names event (index + 1) v) ∧
      (p ≠ .object v → announcement types ⟨index + 1, p, e⟩ = none) := by
  refine ⟨?_, ?_, ?_⟩
  · rw [isUntyped_iff, hp, Except.ok.injEq]
  · rintro rfl
    exact ⟨warning types (index + 1) v, rfl, names_warning types (index + 1) v⟩
  · intro htyped
    unfold announcement
    cases p with
    | null tag => rfl
    | typed tag tv => rfl
    | object u =>
      rw [eq_of_param_object hp] at htyped
      exact absurd rfl htyped

lemma notice_of_param (hp : Binding.param (index + 1) v (Binding.declared? types index) = .ok p)
    (e : Option Error) : Binding.notice types index v = announcement types ⟨index + 1, p, e⟩ := by
  obtain ⟨huntyped, _, htyped⟩ := announcement_of_param hp e
  by_cases h : IsUntyped types index v
  · rw [notice_of_untyped h, huntyped.mpr h]
    rfl
  · rw [notice_of_typed h, htyped (mt huntyped.mp h)]

lemma notice_of_error {f : WriteFailure}
    (hp : Binding.param (index + 1) v (Binding.declared? types index) = .error f) :
    Binding.notice types index v = none := by
  apply notice_of_typed
  intro h
  rw [isUntyped_iff.mp h] at hp
  cases hp

lemma position_of_param_error {position : Nat} {expected : Tag} {actual : Value.Kind}
    {cause : Error} (hp : Binding.param (index + 1) v (Binding.declared? types index) =
      .error (.mismatch position expected actual cause)) : position = index + 1 := by
  cases htag : Binding.declared? types index with
  | none =>
    rw [htag] at hp
    cases hp
  | some tag =>
    rw [htag] at hp
    have hbound := boundAs_param (index + 1) v tag
    rw [hp] at hbound
    generalize tag.normalize = normal at hbound
    cases hbound with
    | mismatch => rfl

end Field

/-! ### The fields of a record -/

/-- What goes for the binds that are asked for fields from `index` on. -/
structure Announced (types : Option (List Tag)) (index : Nat) (vs : List Value)
    (result : Except WriteFailure Unit) (log : List Log.Entry)
    (calls : List (BindCall × List Log.Entry)) : Prop where
  /-- Each bind is announced as it deserves, and then the statement logs what it likes. -/
  log : log = calls.flatMap fun c => (announcement types c.1).toList.map Log.plain ++ c.2
  positions : calls.map (fun c => c.1.position) = List.range' (index + 1) calls.length
  params : ∀ c ∈ calls, ∃ i v, c.1.position = index + i + 1 ∧ vs[i]? = some v ∧
    Binding.param (index + i + 1) v (Binding.declared? types (index + i)) = .ok c.1.param
  mismatch : ∀ position expected actual cause,
    result = .error (.mismatch position expected actual cause) →
      position = index + calls.length + 1

namespace Announced

variable {types : Option (List Tag)} {index : Nat} {v : Value} {vs : List Value} {p : Param}
  {result : Except WriteFailure Unit} {log : List Log.Entry}
  {calls : List (BindCall × List Log.Entry)}

lemma empty (h : ∀ position expected actual cause,
    result = .error (.mismatch position expected actual cause) → position = index + 1) :
    Announced types index vs result [] [] :=
  ⟨rfl, rfl, List.forall_mem_nil _, h⟩

lemma cons (hp : Binding.param (index + 1) v (Binding.declared? types index) = .ok p)
    (e : Option Error) (own : List Log.Entry)
    (h : Announced types (index + 1) vs result log calls) :
    Announced types index (v :: vs) result
      ((Binding.notice types index v).toList.map Log.plain ++ own ++ log)
      ((⟨index + 1, p, e⟩, own) :: calls) where
  log := by rw [List.flatMap_cons, ← h.log, notice_of_param hp e]
  positions := by rw [List.map_cons, h.positions, List.length_cons, List.range'_succ]
  params := by
    rw [List.forall_mem_cons]
    refine ⟨⟨0, v, rfl, rfl, hp⟩, ?_⟩
    intro c hc
    obtain ⟨i, u, hposition, hu, hparam⟩ := h.params c hc
    have hshift : index + 1 + i = index + (i + 1) := by omega
    rw [hshift] at hposition hparam
    exact ⟨i + 1, u, hposition, hu, hparam⟩
  mismatch := by
    intro position expected actual cause hresult
    have hposition := h.mismatch position expected actual cause hresult
    rw [List.length_cons]
    omega

end Announced

lemma bindFrom_announced (b : Backend ω κ τ) (types : Option (List Tag)) (s : τ)
    (w : Overheard ω) (index : Nat) (vs : List Value) :
    let binding := Binding.bindFrom (Overheard.backend b) types s w index vs
    ∃ calls, binding.state.2.calls = w.calls ++ calls ∧
      Announced types index vs binding.result binding.log calls := by
  intro binding
  induction vs generalizing s w index with
  | nil => exact ⟨[], (List.append_nil _).symm, .empty (by rintro _ _ _ _ ⟨⟩)⟩
  | cons v vs ih =>
    cases hp : Binding.param (index + 1) v (Binding.declared? types index) with
    | error f =>
      simp only [binding, Binding.bindFrom, hp, notice_of_error hp]
      refine ⟨[], (List.append_nil _).symm, .empty ?_⟩
      rintro position expected actual cause ⟨⟩
      exact position_of_param_error hp
    | ok p =>
      let reply := b.bind (index + 1) p s w.world
      have hreply : (Overheard.backend b).bind (index + 1) p s w =
          reply.mapState (Prod.map id fun world =>
            ⟨world, w.calls ++ [(⟨index + 1, p, errorOf reply.result⟩, reply.log)]⟩) := rfl
      cases hresult : reply.result with
      | error e =>
        have hnone : Announced types (index + 1) vs (.error (.bind (index + 1) e)) [] [] :=
          .empty (by rintro _ _ _ _ ⟨⟩)
        have hlast := hnone.cons hp (some e) reply.log
        rw [List.append_nil] at hlast
        simp only [binding, Binding.bindFrom, hp, hreply, Reply.mapState, hresult, errorOf]
        exact ⟨_, rfl, hlast⟩
      | ok a =>
        simp only [binding, Binding.bindFrom, hp, hreply, Reply.mapState, hresult, errorOf,
          Reply.after]
        obtain ⟨calls, hcalls, hrest⟩ := ih reply.state.1
          ⟨reply.state.2, w.calls ++ [(⟨index + 1, p, none⟩, reply.log)]⟩ (index + 1)
        refine ⟨_, ?_, hrest.cons hp none reply.log⟩
        exact hcalls.trans (List.append_cons ..).symm

/-- Everything that is logged while a record is bound, bind by bind: a warning that names the position
and shows the value if the parameter is untyped, and then whatever the statement logs itself. The
binds are those of the positions from the first on, each once and none of a field that does not fit
its type. A field is announced if no type is declared for it, or one that is not known and the value
is not null. -/
theorem untyped_binds_announced (b : Backend ω κ τ) (types : Option (List Tag)) (r : Record) (s : τ)
    (w : ω) :
    let calls := overheard b types r s w
    calls.map Prod.fst = bindCalls b types r s w ∧
    (Binding.record b types r s w).log =
      calls.flatMap (fun c => (announcement types c.1).toList.map Log.plain ++ c.2) ∧
    calls.map (fun c => c.1.position) = List.range' 1 calls.length ∧
    (∀ c ∈ calls, ∃ v, r.fields[c.1.position - 1]? = some v ∧
      (c.1.param = .object v ↔ IsUntyped types (c.1.position - 1) v) ∧
      (c.1.param = .object v → ∃ e, announcement types c.1 = some e ∧ Names e c.1.position v) ∧
      (c.1.param ≠ .object v → announcement types c.1 = none)) ∧
    ∀ position expected actual cause,
      (Binding.record b types r s w).result = .error (.mismatch position expected actual cause) →
        position = calls.length + 1 := by
  intro calls
  obtain ⟨asked, hasked, hlog, hpositions, hparams, hmismatch⟩ :=
    bindFrom_announced b types s ⟨w, []⟩ 0 r.fields
  obtain rfl : calls = asked := hasked
  have hrecord : Binding.record b types r s w =
      (Binding.record (Overheard.backend b) types r s ⟨w, []⟩).mapState
        (through Overheard.world) :=
    bindFrom_through (simulates_overheard b) types s ⟨w, []⟩ 0 r.fields
  refine ⟨map_fst_overheard b types r s w, ?_, hpositions, ?_, ?_⟩
  · rw [hrecord]
    exact hlog
  · intro c hc
    obtain ⟨i, v, hposition, hv, hparam⟩ := hparams c hc
    obtain ⟨⟨position, p, e⟩, own⟩ := c
    rw [Nat.zero_add] at hposition hparam
    obtain rfl : position = i + 1 := hposition
    exact ⟨v, hv, announcement_of_param hparam e⟩
  · intro position expected actual cause hresult
    rw [hrecord] at hresult
    have hlast := hmismatch position expected actual cause hresult
    omega

/-- A null and a text under the code of `ARRAY`, and a text under `INTEGER`, which takes none. -/
theorem untyped_binds_announced_misfit :
    let types : Option (List Tag) := some [.other 2003, .other 2003, .standard .integer]
    let r : Record := ⟨[.null, .string "x", .string "y"]⟩
    let s : Memory.Statement := ⟨"INSERT", [], #[]⟩
    let binding := Binding.record Memory.backend types r s .start
    let unfit := unfitValue (.string "y") (.standard .integer)
    binding.result = .error (.mismatch 3 (.standard .integer) .string unfit) ∧
      (overheard Memory.backend types r s .start).length + 1 = 3 ∧
      binding.log = [Log.plain (.untyped 2 (some (.other 2003)) (.string "x"))] := by
  intro types r s binding unfit
  obtain ⟨_, hlog, _, _, hmismatch⟩ := untyped_binds_announced Memory.backend types r s .start
  have hresult : binding.result = .error (.mismatch 3 (.standard .integer) .string unfit) := rfl
  exact ⟨hresult, (hmismatch 3 _ _ _ hresult).symm, hlog⟩

end BatchInsert.Proofs
