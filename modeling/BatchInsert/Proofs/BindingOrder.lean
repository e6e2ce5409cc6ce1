import BatchInsert.Proofs.Exchanges
import BatchInsert.Proofs.Leftover

/-!
# In which order fields are bound

The fields of a record are bound from the first position on, one by one, up to the first that cannot
be: its value does not fit the type declared for it, or the statement refuses the parameter. That
field decides what is answered, and those after it are not looked at.
-/

namespace BatchInsert.Proofs

open Database (Backend Error Reply)
open Memory (Row)
open Sql (Param Tag)

variable {ω κ τ : Type}

/-! ### The binds asked of a statement -/

/-- A bind and the error that it answered, if it answered one. -/
structure BindCall where
  position : Nat
  param : Param
  error? : Option Error

/-- A world, and the binds that were asked in it in their order. -/
structure Heard (ω : Type) where
  world : ω
  bindCalls : List BindCall

namespace Heard

def here {σ : Type} (w : Heard ω) : σ × ω → σ × Heard ω := Prod.map id fun world => { w with world }

def backend (b : Backend ω κ τ) : Backend (Heard ω) κ τ where
  prepare sql c w := (b.prepare sql c w.world).mapState fun world => { w with world }
  closeConnection c w := (b.closeConnection c w.world).mapState w.here
  bind position p s w :=
    let reply := b.bind position p s w.world
    reply.mapState (Prod.map id fun world =>
      ⟨world, w.bindCalls ++ [⟨position, p, errorOf reply.result⟩]⟩)
  addBatch s w := (b.addBatch s w.world).mapState w.here
  executeBatch s w := (b.executeBatch s w.world).mapState w.here
  closeStatement s w := (b.closeStatement s w.world).mapState w.here
  batchLength := b.batchLength
  sql := b.sql
  executionTime s w := b.executionTime s w.world

end Heard

lemma simulates_heard (b : Backend ω κ τ) : Simulates Heard.world (Heard.backend b) b := by
  constructor <;> intros <;> rfl

/-- Writing the binds down changes nothing. -/
theorem record_heard (b : Backend ω κ τ) (types : Option (List Tag)) (r : Record) (s : τ)
    (w : Heard ω) : Binding.record b types r s w.world =
      (Binding.record (Heard.backend b) types r s w).mapState (through Heard.world) :=
  bindFrom_through (simulates_heard b) types s w 0 r.fields

/-- The binds that are asked of a statement for a record. -/
def bindCalls (b : Backend ω κ τ) (types : Option (List Tag)) (r : Record) (s : τ) (w : ω) :
    List BindCall :=
  (Binding.record (Heard.backend b) types r s ⟨w, []⟩).state.2.bindCalls

/-- A bind that succeeds. -/
def taken (e : Nat × Param) : BindCall := ⟨e.1, e.2, none⟩

/-! ### A prefix of the fields -/

/-- The statement takes the parameters of a row from a position on, in their order. -/
inductive Accepts (b : Backend ω κ τ) : Nat → Row → τ × ω → τ × ω → Prop
  | nil {n : Nat} {x : τ × ω} : Accepts b n [] x x
  | cons {n : Nat} {p : Param} {row : Row} {x y : τ × ω}
      (h : (b.bind n p x.1 x.2).result = .ok ())
      (rest : Accepts b (n + 1) row (b.bind n p x.1 x.2).state y) : Accepts b n (p :: row) x y

/-- The first `k` fields make up a row of parameters, and the statement takes them all. -/
structure BoundUpTo (b : Backend ω κ τ) (types : Option (List Tag)) (r : Record) (start : τ × ω)
    (k : Nat) (row : Row) (y : τ × ω) : Prop where
  inside : k ≤ r.arity
  params : rowOf types ⟨r.fields.take k⟩ = .ok row
  accepted : Accepts b 1 row start y

/-- The field at index `k` cannot be bound, with what is answered and with the bind that is asked in
vain, if one is asked. -/
inductive Offends (b : Backend ω κ τ) (types : Option (List Tag)) (k : Nat) (v : Value)
    (y : τ × ω) : WriteFailure → List BindCall → Prop
  | field {expected : Tag} {actual : Value.Kind} {cause : Error}
      (h : Binding.param (k + 1) v (Binding.declared? types k) =
        .error (.mismatch (k + 1) expected actual cause)) :
      Offends b types k v y (.mismatch (k + 1) expected actual cause) []
  | statement {p : Param} {e : Error}
      (hp : Binding.param (k + 1) v (Binding.declared? types k) = .ok p)
      (h : (b.bind (k + 1) p y.1 y.2).result = .error e) :
      Offends b types k v y (.bind (k + 1) e) [⟨k + 1, p, some e⟩]

section Prefix

variable {b : Backend ω κ τ} {types : Option (List Tag)} {row : Row} {x y : τ × ω}

lemma accepts_heard {n : Nat} (h : Accepts b n row x y) (before : List BindCall) :
    Accepts (Heard.backend b) n row (x.1, ⟨x.2, before⟩)
      (y.1, ⟨y.2, before ++ (numbered n row).map taken⟩) := by
  induction h generalizing before with
  | nil => simpa [numbered] using .nil
  | @cons n p row x y h rest ih =>
    have hstate : ((Heard.backend b).bind n p x.1 ⟨x.2, before⟩).state =
        ((b.bind n p x.1 x.2).state.1, ⟨(b.bind n p x.1 x.2).state.2,
          before ++ [⟨n, p, errorOf (b.bind n p x.1 x.2).result⟩]⟩) := rfl
    refine .cons h ?_
    rw [hstate, h]
    have hnext := ih (before ++ [taken (n, p)])
    rwa [List.append_assoc] at hnext

lemma bindFrom_accepts {index : Nat} {vs : List Value} (hrow : boundPrefix types index vs = row)
    (hlength : row.length = vs.length) (h : Accepts b (index + 1) row x y) :
    ∃ log, ∀ others, Binding.bindFrom b types x.1 x.2 index (vs ++ others) =
      (Binding.bindFrom b types y.1 y.2 (index + vs.length) others).after log := by
  induction vs generalizing index row x with
  | nil =>
    obtain rfl : [] = row := hrow
    cases h
    exact ⟨[], fun others => rfl⟩
  | cons v vs ih =>
    cases hp : Binding.param (index + 1) v (Binding.declared? types index) with
    | error f =>
      simp only [boundPrefix, hp] at hrow
      subst hrow
      cases hlength
    | ok p =>
      simp only [boundPrefix, hp] at hrow
      subst hrow
      cases h with
      | cons hbind rest =>
        obtain ⟨log, hlog⟩ := ih rfl (Nat.succ.inj hlength) rest
        let here := (Binding.notice types index v).toList.map Log.plain ++
          (b.bind (index + 1) p x.1 x.2).log
        refine ⟨here ++ log, fun others => ?_⟩
        have hcount : index + (v :: vs).length = index + 1 + vs.length := by
          rw [List.length_cons]
          omega
        simp only [List.cons_append, Binding.bindFrom, hp, hbind, hlog, hcount, Reply.after, here,
          List.append_assoc]

lemma bindFrom_offends {k : Nat} {v : Value} {f : WriteFailure} {tried : List BindCall}
    (h : Offends b types k v y f tried) (others : List Value) :
    (Binding.bindFrom b types y.1 y.2 k (v :: others)).result = .error f ∧
      Binding.bindFrom b types y.1 y.2 k (v :: others) =
        Binding.bindFrom b types y.1 y.2 k [v] := by
  cases h with
  | field h =>
    simp only [Binding.bindFrom, h]
    exact ⟨rfl, trivial⟩
  | statement hp h => simp only [Binding.bindFrom, hp, h, and_self]

lemma bindCalls_offends {k : Nat} {v : Value} {f : WriteFailure} {tried : List BindCall}
    (h : Offends b types k v y f tried) (before : List BindCall) (others : List Value) :
    (Binding.bindFrom (Heard.backend b) types y.1 ⟨y.2, before⟩ k
      (v :: others)).state.2.bindCalls = before ++ tried := by
  cases h with
  | field h =>
    simp only [Binding.bindFrom, h, List.append_nil]
    rfl
  | @statement p e hp h =>
    have hresult : ((Heard.backend b).bind (k + 1) p y.1 ⟨y.2, before⟩).result = .error e := h
    have hcalls : ((Heard.backend b).bind (k + 1) p y.1 ⟨y.2, before⟩).state.2.bindCalls =
        before ++ [⟨k + 1, p, errorOf (b.bind (k + 1) p y.1 y.2).result⟩] := rfl
    simp only [Binding.bindFrom, hp, hresult, hcalls, h, errorOf]

lemma bound_or_offends (b : Backend ω κ τ) (types : Option (List Tag)) (index : Nat)
    (vs : List Value) (x : τ × ω) :
    (∃ row y, boundPrefix types index vs = row ∧ row.length = vs.length ∧
      Accepts b (index + 1) row x y) ∨
    ∃ before v others row y f tried, vs = before ++ v :: others ∧
      boundPrefix types index before = row ∧ row.length = before.length ∧
        Accepts b (index + 1) row x y ∧
          Offends b types (index + before.length) v y f tried := by
  induction vs generalizing index x with
  | nil => exact .inl ⟨[], x, rfl, rfl, .nil⟩
  | cons v vs ih =>
    cases hp : Binding.param (index + 1) v (Binding.declared? types index) with
    | error f =>
      obtain ⟨expected, actual, cause, rfl⟩ := param_error_eq hp
      exact .inr ⟨[], v, vs, [], x, _, [], rfl, rfl, rfl, .nil, .field hp⟩
    | ok p =>
      cases hbind : (b.bind (index + 1) p x.1 x.2).result with
      | error e => exact .inr ⟨[], v, vs, [], x, _, _, rfl, rfl, rfl, .nil, .statement hp hbind⟩
      | ok a =>
        have hgrow (vs : List Value) :
            boundPrefix types index (v :: vs) = p :: boundPrefix types (index + 1) vs := by
          simp only [boundPrefix, hp]
        rcases ih (index + 1) (b.bind (index + 1) p x.1 x.2).state with
          ⟨row, y, hrow, hlength, haccepts⟩ |
            ⟨before, u, others, row, y, f, tried, rfl, hrow, hlength, haccepts, hoffends⟩
        · refine .inl ⟨p :: row, y, ?_, congrArg (· + 1) hlength, .cons hbind haccepts⟩
          rw [hgrow, hrow]
        · refine .inr ⟨v :: before, u, others, p :: row, y, f, tried, rfl, ?_,
            congrArg (· + 1) hlength, .cons hbind haccepts, ?_⟩
          · rw [hgrow, hrow]
          · have hcount : index + (v :: before).length = index + 1 + before.length := by
              rw [List.length_cons]
              omega
            rw [hcount]
            exact hoffends

end Prefix

/-! ### Declared types beyond the fields -/

lemma bindFrom_types_congr (b : Backend ω κ τ) {tags tags' : List Tag} {index : Nat}
    {vs : List Value} (h : ∀ i < index + vs.length, tags'[i]? = tags[i]?) (s : τ) (w : ω) :
    Binding.bindFrom b (some tags') s w index vs = Binding.bindFrom b (some tags) s w index vs := by
  induction vs generalizing s w index with
  | nil => rfl
  | cons v vs ih =>
    have hhere : tags'[index]? = tags[index]? := h index (by simp)
    have hrest : ∀ i < index + 1 + vs.length, tags'[i]? = tags[i]? :=
      fun i hi => h i (by rw [List.length_cons]; omega)
    simp only [Binding.bindFrom, Binding.declared?, Binding.notice, Option.bind_some, hhere,
      ih hrest]

/-! ### Records -/

section Record

variable (b : Backend ω κ τ) (types : Option (List Tag)) (r : Record) (s : τ) (w : ω)

lemma rowOf_take {k : Nat} {row : Row} (h : rowOf types ⟨r.fields.take k⟩ = .ok row) :
    boundPrefix types 0 (r.fields.take k) = row ∧ row.length = (r.fields.take k).length :=
  (rowOf_eq_ok_iff types _ row).mp h

lemma bindCalls_eq {log : List Log.Entry} {reply : Reply WriteFailure (τ × Heard ω) Unit}
    (h : Binding.record (Heard.backend b) types r s ⟨w, []⟩ = reply.after log) :
    bindCalls b types r s w = reply.state.2.bindCalls := by
  rw [bindCalls, h]
  rfl

variable {b types r s w}

lemma record_of_bound {row : Row} {y : τ × ω} (h : BoundUpTo b types r (s, w) r.arity row y) :
    (Binding.record b types r s w).result = .ok () ∧
      (Binding.record b types r s w).state = y ∧
        bindCalls b types r s w = (numbered 1 row).map taken := by
  obtain ⟨hrow, hlength⟩ := rowOf_take types r h.params
  have hall : r.fields.take r.arity = r.fields := List.take_length
  rw [hall] at hrow hlength
  obtain ⟨log, hlog⟩ := bindFrom_accepts hrow hlength h.accepted
  obtain ⟨log', hlog'⟩ := bindFrom_accepts hrow hlength (accepts_heard h.accepted [])
  have hrecord := hlog []
  have hheard := hlog' []
  rw [List.append_nil] at hrecord hheard
  refine ⟨?_, ?_, bindCalls_eq b types r s w hheard⟩
  · rw [Binding.record, hrecord]
    rfl
  · rw [Binding.record, hrecord]
    rfl

lemma record_of_offends {k : Nat} {row : Row} {y : τ × ω} {v : Value} {f : WriteFailure}
    {tried : List BindCall} (h : BoundUpTo b types r (s, w) k row y) (hv : r.fields[k]? = some v)
    (hoffends : Offends b types k v y f tried) :
    (Binding.record b types r s w).result = .error f ∧
      bindCalls b types r s w = (numbered 1 row).map taken ++ tried ∧
        ∀ others, Binding.record b types ⟨r.fields.take (k + 1) ++ others⟩ s w =
          Binding.record b types r s w := by
  obtain ⟨hrow, hlength⟩ := rowOf_take types r h.params
  obtain ⟨hk, rfl⟩ := List.getElem?_eq_some_iff.mp hv
  have hcount : 0 + (r.fields.take k).length = k := by
    rw [List.length_take, Nat.zero_add]
    exact Nat.min_eq_left (Nat.le_of_lt hk)
  have hcut : r.fields = r.fields.take k ++ r.fields[k] :: r.fields.drop (k + 1) := by
    rw [List.getElem_cons_drop, List.take_append_drop]
  obtain ⟨log, hlog⟩ := bindFrom_accepts hrow hlength h.accepted
  obtain ⟨log', hlog'⟩ := bindFrom_accepts hrow hlength (accepts_heard h.accepted [])
  rw [hcount] at hlog hlog'
  have hrecord (others : List Value) :
      Binding.record b types ⟨r.fields.take k ++ r.fields[k] :: others⟩ s w =
        (Binding.bindFrom b types y.1 y.2 k [r.fields[k]]).after log := by
    rw [Binding.record, hlog, (bindFrom_offends hoffends others).2]
  have hself : Binding.record b types r s w =
      (Binding.bindFrom b types y.1 y.2 k [r.fields[k]]).after log := by
    rw [← hrecord (r.fields.drop (k + 1)), ← hcut]
  have hheard := hlog' (r.fields[k] :: r.fields.drop (k + 1))
  rw [← hcut] at hheard
  refine ⟨?_, ?_, fun others => ?_⟩
  · rw [hself]
    exact (bindFrom_offends hoffends []).1
  · rw [bindCalls_eq b types r s w hheard]
    exact bindCalls_offends hoffends _ _
  · rw [List.take_succ_eq_append_getElem hk, List.append_assoc, List.singleton_append, hrecord,
      hself]

end Record

/-- If no field is the first that cannot be bound, all are bound, each once, in their order. If one
is, the fields before it have been bound, it decides what is answered, and the fields behind it are
not looked at. Types that are declared beyond the fields make no difference. -/
theorem record_binds_prefix (b : Backend ω κ τ) (types : Option (List Tag)) (r : Record) (s : τ)
    (w : ω) :
    ((∀ k row y v f tried, BoundUpTo b types r (s, w) k row y → r.fields[k]? = some v →
        ¬ Offends b types k v y f tried) →
      (Binding.record b types r s w).result = .ok () ∧
        ∃ row, BoundUpTo b types r (s, w) r.arity row (Binding.record b types r s w).state ∧
          bindCalls b types r s w = (numbered 1 row).map taken) ∧
    (∀ k row y v f tried, BoundUpTo b types r (s, w) k row y → r.fields[k]? = some v →
      Offends b types k v y f tried →
        (Binding.record b types r s w).result = .error f ∧
          bindCalls b types r s w = (numbered 1 row).map taken ++ tried ∧
            ∀ others, Binding.record b types ⟨r.fields.take (k + 1) ++ others⟩ s w =
              Binding.record b types r s w) ∧
    ∀ tags surplus, types = some tags → r.arity ≤ tags.length →
      Binding.record b (some (tags ++ surplus)) r s w = Binding.record b types r s w := by
  refine ⟨fun hnone => ?_, fun k row y v f tried h hv hoffends => record_of_offends h hv hoffends,
    ?_⟩
  · rcases bound_or_offends b types 0 r.fields (s, w) with ⟨row, y, hrow, hlength, haccepts⟩ |
      ⟨before, v, others, row, y, f, tried, hfields, hrow, hlength, haccepts, hoffends⟩
    · have hbound : BoundUpTo b types r (s, w) r.arity row y := by
        have hall : r.fields.take r.arity = r.fields := List.take_length
        exact ⟨Nat.le_refl _, by rw [hall]; exact (rowOf_eq_ok_iff types r row).mpr ⟨hrow, hlength⟩,
          haccepts⟩
      obtain ⟨hresult, hstate, hcalls⟩ := record_of_bound hbound
      exact ⟨hresult, row, hstate ▸ hbound, hcalls⟩
    · rw [Nat.zero_add] at hoffends
      refine absurd hoffends (hnone before.length row y v f tried ⟨?_, ?_, haccepts⟩ ?_)
      · rw [Record.arity, hfields, List.length_append]
        exact Nat.le_add_right ..
      · rw [hfields, List.take_left]
        exact (rowOf_eq_ok_iff types _ row).mpr ⟨hrow, hlength⟩
      · rw [hfields, List.getElem?_append_right (Nat.le_refl _), Nat.sub_self]
        rfl
  · rintro tags surplus rfl harity
    refine bindFrom_types_congr b (fun i hi => ?_) s w
    rw [Nat.zero_add] at hi
    exact List.getElem?_append_left (Nat.lt_of_lt_of_le hi harity)

/-- The second field does not fit the type of its code, and a type is declared for a fourth. -/
theorem record_binds_prefix_misfit :
    let types : List Tag := [.standard .integer, .other 12, .standard .integer]
    let r : Record := ⟨[.int32 1, .int32 2, .int32 3]⟩
    let s : Memory.Statement := ⟨"INSERT", [], #[]⟩
    let row : Row := [.typed (.standard .integer) (.int 1)]
    let bound := (Memory.backend.bind 1 (.typed (.standard .integer) (.int 1)) s .start).state
    BoundUpTo Memory.backend (some types) r (s, .start) 1 row bound ∧
      ∃ e, Offends Memory.backend (some types) 1 (.int32 2) bound
          (.mismatch 2 (.standard .varchar) .int32 e) [] ∧
        (Binding.record Memory.backend (some types) r s .start).result =
          .error (.mismatch 2 (.standard .varchar) .int32 e) ∧
        bindCalls Memory.backend (some types) r s .start =
          [⟨1, .typed (.standard .integer) (.int 1), none⟩] ∧
        Binding.record Memory.backend (some (types ++ [.standard .date])) r s .start =
          Binding.record Memory.backend (some types) r s .start := by
  intro types r s row bound
  have hbound : BoundUpTo Memory.backend (some types) r (s, .start) 1 row bound :=
    ⟨by decide, rfl, .cons rfl .nil⟩
  have hoffends : Offends Memory.backend (some types) 1 (.int32 2) bound
      (.mismatch 2 (.standard .varchar) .int32 _) [] := .field rfl
  obtain ⟨-, hfirst, hsurplus⟩ := record_binds_prefix Memory.backend (some types) r s .start
  obtain ⟨hresult, hcalls, -⟩ := hfirst 1 row bound (.int32 2) _ _ hbound rfl hoffends
  exact ⟨hbound, _, hoffends, hresult, hcalls,
    hsurplus types [.standard .date] rfl (by decide)⟩

end BatchInsert.Proofs
