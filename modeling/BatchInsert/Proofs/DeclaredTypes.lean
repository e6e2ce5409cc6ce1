import BatchInsert.Proofs.ArityGate
import BatchInsert.Proofs.Positions

/-!
# Declared types and the data

The types that are declared for columns decide whether a record can be bound and of what type its
nulls are, but not what is sent. A record that can be bound under declared types makes up the same
row as without them, save that a column which is declared null is sent as one.
-/

namespace BatchInsert.Proofs

open Database (Backend Placeholders)
open Sql (Param Tag TypedValue)

variable {ω κ τ σ σ' α : Type}

/-! ### One field -/

/-- Whether the type declared for the field at an index is that of null alone. -/
def isNullColumn (types : List Tag) (i : Nat) : Bool :=
  types[i]?.map Tag.normalize == some (.standard .null)

lemma value_of_ofValue {tag : Tag} {v : Value} {tv : TypedValue}
    (h : TypedValue.ofValue tag v = .ok tv) : tv.value = v := by
  simp only [TypedValue.ofValue] at h
  repeat' split at h
  · cases h
  · rename_i hkind
    cases h
    split at hkind
    · exact TypedValue.value_of_ofKind? hkind
    · cases hkind
  · cases h

lemma param_declared {types : List Tag} {i : Nat} {v : Value} {p : Param}
    (h : Binding.param (i + 1) v (Binding.declared? (some types) i) = .ok p) :
    ((v.isNull = true ∨ isNullColumn types i = true) ∧ ∃ tag, p = .null tag) ∨
      (isNullColumn types i = false ∧
        (p = .object v ∨ ∃ tag tv, p = .typed tag tv ∧ tv.value = v)) := by
  simp only [Binding.declared?, Option.bind_some] at h
  cases htype : types[i]? with
  | none =>
    simp only [htype, Binding.param, Except.ok.injEq] at h
    exact .inr ⟨by simp [isNullColumn, htype], .inl h.symm⟩
  | some tag =>
    have hcolumn : isNullColumn types i = (tag.normalize == .standard .null) := by
      simp [isNullColumn, htype]
    simp only [htype, Binding.param] at h
    rw [hcolumn]
    split at h
    · rename_i hnull
      cases h
      exact .inl ⟨.inl hnull, _, rfl⟩
    · cases hnormal : tag.normalize with
      | other c =>
        simp only [hnormal, Except.ok.injEq] at h
        exact .inr ⟨rfl, .inl h.symm⟩
      | standard t =>
        rw [hnormal] at h
        by_cases ht : t = .null
        · subst ht
          cases h
          exact .inl ⟨.inr rfl, _, rfl⟩
        · cases htyped : TypedValue.ofValue (.standard t) v with
          | error e => cases t <;> simp [htyped] at h ht
          | ok tv =>
            have hp : p = .typed (.standard t) tv := by
              cases t <;> simp_all
            exact .inr ⟨by simpa using ht, .inr ⟨_, tv, hp, value_of_ofValue htyped⟩⟩

lemma isNull_eq_true {v : Value} (h : v.isNull = true) : v = .null := by
  cases v with
  | null => rfl
  | _ => cases h

lemma mysql_declared {types : List Tag} {i : Nat} {v : Value} {p : Param}
    (h : Binding.param (i + 1) v (Binding.declared? (some types) i) = .ok p) :
    Mysql.Datum.ofParam p =
      if isNullColumn types i = true then .null else Mysql.Datum.ofParam (.object v) := by
  rcases param_declared h with ⟨hnull, tag, rfl⟩ | ⟨hcolumn, rfl | ⟨tag, tv, rfl, hvalue⟩⟩
  · split
    · rfl
    · rename_i hcolumn
      rw [isNull_eq_true (hnull.resolve_right hcolumn)]
      rfl
  · rw [if_neg (by simp [hcolumn])]
  · rw [if_neg (by simp [hcolumn]), ← hvalue]
    rfl

lemma ofValue?_value (tv : TypedValue) :
    Postgres.Datum.ofValue? tv.value = some (Postgres.Datum.ofTyped tv) := by
  cases tv <;> rfl

lemma postgres_declared {types : List Tag} {i : Nat} {v : Value} {p : Param}
    (h : Binding.param (i + 1) v (Binding.declared? (some types) i) = .ok p)
    (hv : v.isNull = false) (hcolumn : isNullColumn types i = false) :
    ∃ d, Postgres.Argument.ofParam p = .value d ∧
      Postgres.Argument.ofParam (.object v) = .value d := by
  rcases param_declared h with ⟨hnull, _⟩ | ⟨_, rfl | ⟨tag, tv, rfl, hvalue⟩⟩
  · simp [hv, hcolumn] at hnull
  · cases v with
    | null => cases hv
    | _ => exact ⟨_, rfl, rfl⟩
  · subst hvalue
    refine ⟨_, rfl, ?_⟩
    rw [Postgres.Argument.ofParam, ofValue?_value]
    rfl

/-! ### The fields of a record -/

/-- After fields have been bound from `index` on, their parameters stand at their positions, and
what was bound before at all others. -/
structure Rebound (types : Option (List Tag)) (index : Nat) (vs : List Value)
    (old new : Bindings) : Prop where
  fields : ∀ i v, vs[i]? = some v → ∃ p,
    Binding.param (index + i + 1) v (Binding.declared? types (index + i)) = .ok p ∧
      new (index + i + 1) = some p
  others : ∀ k, k ≤ index ∨ index + vs.length < k → new k = old k

section Record

variable {b : Backend ω κ τ} {places : τ → Placeholders}

lemma bindFrom_rebound (hb : Placed b places) (types : Option (List Tag)) (vs : List Value)
    {s : τ} {n index : Nat} {bound : Bindings} (hs : Tells (places s) n bound) (w : ω)
    (hindex : index ≤ n) (hok : (Binding.bindFrom b types s w index vs).result = .ok ()) :
    index + vs.length ≤ n ∧
      ∃ new, Tells (places (Binding.bindFrom b types s w index vs).state.1) n new ∧
        Rebound types index vs bound new := by
  induction vs generalizing s w index bound with
  | nil => exact ⟨hindex, bound, hs, ⟨by simp, fun _ _ => rfl⟩⟩
  | cons v vs ih =>
    cases hp : Binding.param (index + 1) v (Binding.declared? types index) with
    | error f => simp [Binding.bindFrom, hp, Database.Reply.fail, Database.Reply.after] at hok
    | ok p =>
      cases hbind : (places s).bind (index + 1) p with
      | error e =>
        simp [Binding.bindFrom, hp, (hb.bind_error (w := w) hbind).1] at hok
      | ok y =>
        obtain ⟨hresult, hplaces, _⟩ := hb.bind_ok (w := w) hbind
        have hposition := (hs.bind_ok_iff (index + 1) p).mp ⟨y, hbind⟩
        have hnext := hs.bind hbind
        rw [← hplaces] at hnext
        simp only [Binding.bindFrom, hp, hresult, Database.Reply.after] at hok ⊢
        obtain ⟨hlength, new, htells, hfields, hothers⟩ := ih hnext _ hposition.2 hok
        refine ⟨by simp only [List.length_cons]; omega, new, htells, ?_, ?_⟩
        · intro i u hu
          cases i with
          | zero =>
            cases hu
            refine ⟨p, hp, ?_⟩
            rw [hothers _ (.inl (Nat.le_refl _))]
            exact Function.update_self ..
          | succ i =>
            have hshift : index + (i + 1) = index + 1 + i := by omega
            rw [hshift]
            exact hfields i u hu
        · intro k hk
          rw [List.length_cons] at hk
          rw [hothers k (by omega), Function.update_of_ne (by omega)]

lemma bindFrom_keeps {f : τ → α} (hf : ∀ position p s w, f (b.bind position p s w).state.1 = f s)
    (types : Option (List Tag)) (vs : List Value) (s : τ) (w : ω) (index : Nat) :
    f (Binding.bindFrom b types s w index vs).state.1 = f s := by
  induction vs generalizing s w index with
  | nil => rfl
  | cons v vs ih =>
    simp only [Binding.bindFrom]
    split
    · rfl
    · split
      · exact hf ..
      · exact (ih _ _ _).trans (hf ..)

/-- A parameter of a row beside the one that is there without declared types. -/
inductive Beside (types : List Tag) (r : Record) (i : Nat) : Option Param → Option Param → Prop
  | field {v : Value} {p : Param} (hv : r.fields[i]? = some v)
      (hp : Binding.param (i + 1) v (Binding.declared? (some types) i) = .ok p) :
      Beside types r i (some p) (some (.object v))
  | leftover {p : Option Param} (hi : r.arity ≤ i) : Beside types r i p p

lemma Beside.isSome_eq {types : List Tag} {r : Record} {i : Nat} {p p' : Option Param}
    (h : Beside types r i p p') : p.isSome = p'.isSome := by
  cases h <;> rfl

lemma record_beside (hb : Placed b places) {types : List Tag} {r : Record} {s : τ} {n : Nat}
    {bound : Bindings} (hs : Tells (places s) n bound) (w w' : ω)
    (hok : (Binding.record b (some types) r s w).result = .ok ()) :
    (Binding.record b none r s w').result = .ok () ∧
      ∃ new new', Tells (places (Binding.record b (some types) r s w).state.1) n new ∧
        Tells (places (Binding.record b none r s w').state.1) n new' ∧
        ∀ i, Beside types r i (new (i + 1)) (new' (i + 1)) := by
  have hbound : ∀ index (vs : List Value), (boundPrefix none index vs).length = vs.length := by
    intro index vs
    induction vs generalizing index with
    | nil => rfl
    | cons v vs ih => exact congrArg (· + 1) (ih (index + 1))
  obtain ⟨hlength, new, htells, hfields, hothers⟩ :=
    bindFrom_rebound hb (some types) r.fields hs w (Nat.zero_le n) hok
  have hroom : (placeholderSlots (places s)).room = some n := congrArg some hs.count
  have hplain : (Binding.record b none r s w').result = .ok () :=
    bindFrom_ok (lawful_of_placed hb) none r.fields hroom w' (hbound 0 r.fields) hlength
  obtain ⟨_, new', htells', hfields', hothers'⟩ :=
    bindFrom_rebound hb none r.fields hs w' (Nat.zero_le n) hplain
  refine ⟨hplain, new, new', htells, htells', fun i => ?_⟩
  cases hv : r.fields[i]? with
  | none =>
    have hi : r.arity ≤ i := List.getElem?_eq_none_iff.mp hv
    have hlast : 0 + r.fields.length < i + 1 := by
      rw [Nat.zero_add]
      exact Nat.lt_succ_of_le hi
    rw [hothers _ (.inr hlast), hothers' _ (.inr hlast)]
    exact .leftover hi
  | some v =>
    obtain ⟨p, hp, hnew⟩ := hfields i v hv
    obtain ⟨p', hp', hnew'⟩ := hfields' i v hv
    cases hp'
    rw [Nat.zero_add] at hp hnew hnew'
    rw [hnew, hnew']
    exact .field hv hp

end Record

/-! ### The row of a record -/

/-- What goes for a record that is bound under declared types: it can be bound without them, then a
row of it is queued or not alike, and the entries of the two rows compare as is said. -/
structure KeepsData (b : Backend ω κ τ) (queue : τ → List (List α)) (n : Nat) (types : List Tag)
    (r : Record) (s : τ) (w w' : ω) (entries : Nat → Option α → Option α → Prop) : Prop where
  bound : (Binding.record b none r s w').result = .ok ()
  queued : ∀ u u',
    let typed := b.addBatch (Binding.record b (some types) r s w).state.1 u
    let plain := b.addBatch (Binding.record b none r s w').state.1 u'
    (typed.result = .ok () ↔ plain.result = .ok ()) ∧
      (typed.result = .ok () → ∃ row row', queue typed.state.1 = queue s ++ [row] ∧
        queue plain.state.1 = queue s ++ [row'] ∧ row.length = n ∧ row'.length = n ∧
        ∀ i, entries i row[i]? row'[i]?)

lemma keepsData_of_placed {b : Backend ω κ τ} {places : τ → Placeholders} (hb : Placed b places)
    {queue : τ → List (List α)} {f : Param → α}
    (hbind : ∀ position p s w, queue (b.bind position p s w).state.1 = queue s)
    (hadd : ∀ {s w row y}, (places s).takeRow = .ok (row, y) →
      queue (b.addBatch s w).state.1 = queue s ++ [row.map f])
    {n : Nat} {types : List Tag} {r : Record} {s : τ} {bound : Bindings}
    {entries : Nat → Option α → Option α → Prop}
    (hentries : ∀ i p p', Beside types r i p p' → entries i (p.map f) (p'.map f))
    (hs : Tells (places s) n bound) (w w' : ω)
    (hok : (Binding.record b (some types) r s w).result = .ok ()) :
    KeepsData b queue n types r s w w' entries := by
  obtain ⟨hplain, new, new', htells, htells', hbeside⟩ := record_beside hb hs w w' hok
  have hfull : new.isFull n ↔ new'.isFull n :=
    forall₂_congr fun i _ => by rw [(hbeside i).isSome_eq]
  have hadd_iff {t : τ} {bound : Bindings} (ht : Tells (places t) n bound) (u : ω) :
      (b.addBatch t u).result = .ok () ↔ bound.isFull n := by
    rw [(lawful_of_placed hb).add_gate (congrArg some ht.count), ← ht.full_iff, ht.count]
    rfl
  refine ⟨hplain, fun u u' => ⟨?_, fun hmoved => ?_⟩⟩
  · rw [hadd_iff htells, hadd_iff htells', hfull]
  · have hnew := (hadd_iff htells u).mp hmoved
    obtain ⟨row, y, hrow⟩ := htells.takeRow_ok_iff.mpr hnew
    obtain ⟨row', y', hrow'⟩ := htells'.takeRow_ok_iff.mpr (hfull.mp hnew)
    obtain ⟨hlength, hentry⟩ := htells.row_eq hrow
    obtain ⟨hlength', hentry'⟩ := htells'.row_eq hrow'
    refine ⟨row.map f, row'.map f, ?_, ?_, ?_, ?_, fun i => ?_⟩
    · rw [hadd hrow]
      exact congrArg (· ++ _) (bindFrom_keeps hbind ..)
    · rw [hadd hrow']
      exact congrArg (· ++ _) (bindFrom_keeps hbind ..)
    · rw [List.length_map, hlength]
    · rw [List.length_map, hlength']
    · rw [List.getElem?_map, List.getElem?_map, hentry, hentry']
      exact hentries i _ _ (hbeside i)

/-- The rows of a batch as the client library is handed them. -/
def postgresQueue (s : Postgres.Statement) : List (List Postgres.Argument) :=
  s.batch.toList.map (List.map Postgres.Argument.ofParam)

def mysqlQueue (s : Mysql.Statement) : List (List Mysql.Datum) := s.batch.toList

/-- The arguments of the same value are the same, of whatever type it is declared. -/
def sameArguments (types : List Tag) (r : Record) (i : Nat)
    (a a' : Option Postgres.Argument) : Prop :=
  (r.arity ≤ i → a = a') ∧
    ∀ v, r.fields[i]? = some v → v.isNull = false → isNullColumn types i = false →
      ∃ d, a = some (.value d) ∧ a' = some (.value d)

/-- The data are the same but in the columns that are declared null. -/
def sameData (types : List Tag) (r : Record) (i : Nat) (a a' : Option Mysql.Datum) : Prop :=
  a = if i < r.arity ∧ isNullColumn types i = true then some .null else a'

/-- A record is bound under declared types to a statement that was prepared and has got any calls
since. The row that it makes up, together with what had been bound before where it is too short,
carries the data that it carries without declared types. -/
theorem declared_types_keep_data (pg : Postgres.Server σ) (my : Mysql.Server σ')
    {sql sql' : String} {c : Postgres.Connection} {c' : Mysql.Connection} {w : σ}
    {w' : Mysql.World σ'} {s : Postgres.Statement} {s' : Mysql.Statement}
    (hs : ((Postgres.backend pg).prepare sql c w).result = .ok s)
    (hs' : ((Mysql.backend my).prepare sql' c' w').result = .ok s')
    (calls : List (StatementCall × σ)) (calls' : List (StatementCall × Mysql.World σ'))
    (types : List Tag) (r : Record) :
    let t := leftBy (Postgres.backend pg) calls s
    let t' := leftBy (Mysql.backend my) calls' s'
    (∀ u v, (Binding.record (Postgres.backend pg) (some types) r t u).result = .ok () →
      KeepsData (Postgres.backend pg) postgresQueue s.placeholders.count types r t u v
        (sameArguments types r)) ∧
    ∀ u v, (Binding.record (Mysql.backend my) (some types) r t' u).result = .ok () →
      KeepsData (Mysql.backend my) mysqlQueue s'.placeholders.count types r t' u v
        (sameData types r) := by
  intro t t'
  have ht : Tells t.placeholders s.placeholders.count _ :=
    tells_leftBy (placed_postgres pg) (places_close_postgres pg) hs calls
  have ht' : Tells t'.placeholders s'.placeholders.count _ :=
    tells_leftBy (placed_mysql my) (places_close_mysql my) hs' calls'
  refine ⟨fun u v hok => ?_, fun u v hok => ?_⟩
  · refine keepsData_of_placed (f := Postgres.Argument.ofParam) (placed_postgres pg) ?_ ?_ ?_ ht u v
      hok
    · intro position p s w
      simp only [Postgres.backend, Postgres.Statement.bind]
      split <;> rfl
    · intro s w row y hrow
      simp [Postgres.backend, Postgres.Statement.addBatch, hrow, postgresQueue, Database.Reply.ok]
    · intro i p p' hbeside
      cases hbeside with
      | field hv hp =>
        refine ⟨fun hi => ?_, fun v hv' hnull hcolumn => ?_⟩
        · exact absurd hv (by simp [List.getElem?_eq_none_iff.mpr hi])
        · cases hv.symm.trans hv'
          obtain ⟨d, hd, hd'⟩ := postgres_declared hp hnull hcolumn
          exact ⟨d, congrArg some hd, congrArg some hd'⟩
      | leftover hi =>
        refine ⟨fun _ => rfl, fun v hv => ?_⟩
        exact absurd hv (by simp [List.getElem?_eq_none_iff.mpr hi])
  · refine keepsData_of_placed (f := Mysql.Datum.ofParam) (placed_mysql my) ?_ ?_ ?_ ht' u v hok
    · intro position p s w
      simp only [Mysql.backend, Mysql.Statement.bind]
      split <;> rfl
    · intro s w row y hrow
      simp [Mysql.backend, Mysql.Statement.addBatch, hrow, mysqlQueue, Database.Reply.ok]
    · intro i p p' hbeside
      cases hbeside with
      | field hv hp =>
        have hi : i < r.arity := (List.getElem?_eq_some_iff.mp hv).1
        simp only [sameData, hi, true_and, Option.map_some, mysql_declared hp]
        split <;> rfl
      | leftover hi => rw [sameData, if_neg (by omega)]

/-- The code is that of `TINYINT`, the third column is declared null, the fourth has no field, and
what is bound there is left from before. -/
theorem declared_types_keep_data_leftover :
    let pg := tallyOf (List.replicate 4 ⟨25, "text"⟩)
    let my : Mysql.Server Nat := tally 4
    let sql := "INSERT INTO t VALUES ($1, $2, $3, $4)"
    let sql' := "INSERT INTO t VALUES (?, ?, ?, ?)"
    let types : List Tag :=
      [.other (-6), .standard .integer, .standard .null, .standard .date, .standard .time]
    let r : Record := ⟨[.int8 5, .null, .string "x"]⟩
    ∃ s s', ((Postgres.backend pg).prepare sql ⟨0, false⟩ 0).result = .ok s ∧
      ((Mysql.backend my).prepare sql' ⟨0⟩ ⟨0, [0]⟩).result = .ok s' ∧
      let t := leftBy (Postgres.backend pg) [(.bind 4 (.object (.int32 7)), 0)] s
      let t' := leftBy (Mysql.backend my) [(.bind 4 (.object (.int32 7)), ⟨0, [0]⟩)] s'
      let typed := Binding.record (Postgres.backend pg) (some types) r t 0
      let typed' := Binding.record (Mysql.backend my) (some types) r t' ⟨0, [0]⟩
      typed.result = .ok () ∧ typed'.result = .ok () ∧
        ((Postgres.backend pg).addBatch typed.state.1 0).result = .ok () ∧
        ((Mysql.backend my).addBatch typed'.state.1 ⟨0, [0]⟩).result = .ok () ∧
        KeepsData (Postgres.backend pg) postgresQueue 4 types r t 0 0 (sameArguments types r) ∧
        KeepsData (Mysql.backend my) mysqlQueue 4 types r t' ⟨0, [0]⟩ ⟨0, [0]⟩
          (sameData types r) := by
  intro pg my sql sql' types r
  have hs : ((Postgres.backend pg).prepare sql ⟨0, false⟩ 0).result = .ok _ := rfl
  have hs' : ((Mysql.backend my).prepare sql' ⟨0⟩ ⟨0, [0]⟩).result = .ok _ := rfl
  obtain ⟨hpg, hmy⟩ := declared_types_keep_data pg my hs hs'
    [(.bind 4 (.object (.int32 7)), 0)] [(.bind 4 (.object (.int32 7)), ⟨0, [0]⟩)] types r
  exact ⟨_, _, hs, hs', rfl, rfl, rfl, rfl, hpg 0 0 rfl, hmy ⟨0, [0]⟩ ⟨0, [0]⟩ rfl⟩

end BatchInsert.Proofs
