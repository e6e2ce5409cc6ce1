import BatchInsert.Proofs.Classification
import BatchInsert.Proofs.Leftover
import BatchInsert.Proofs.PartialFailure

/-!
# Nulls and the columns that take them

Over PostgreSQL a null is one of the type that is declared for it, and a column may refuse it. The
values that may stand under a declared type are all sent as one kind, and the null of that type is a
null of the same kind. So which columns take a field is decided by the type declared for it alone,
and no record is refused for a null that would not be refused for a value.
-/

namespace BatchInsert.Proofs

open Memory (Row)
open Postgres (Argument Datum Kind Library ServerType)
open Sql (Param Standard Tag TypedValue)

variable {σ : Type}

/-! ### Kinds -/

/-- What values of a kind are sent as, where a standard type takes them. -/
def sentAs? : Value.Kind → Option Kind
  | .bool => some .bool
  | .int8 | .int16 => some .int2
  | .int32 => some .int4
  | .int64 => some .int8
  | .float32 => some .float4
  | .float64 => some .float8
  | .decimal => some .numeric
  | .string => some .text
  | .bytes => some .bytea
  | .date => some .date
  | .time => some .time
  | .dateTime => some .timestamp
  | .null | .moment | .uuid | .json => none

lemma sentAs?_kind (tv : TypedValue) : sentAs? tv.value.kind = some (Datum.ofTyped tv).kind := by
  cases tv <;> rfl

lemma ofStandard?_eq (t : Standard) : Kind.ofStandard? t = t.kind?.bind sentAs? := by
  cases t <;> rfl

lemma ofStandard?_of_kind {t : Standard} {tv : TypedValue} (h : t.kind? = some tv.value.kind) :
    Kind.ofStandard? t = some (Datum.ofTyped tv).kind := by
  rw [ofStandard?_eq, h, Option.bind_some, sentAs?_kind]

/-- Whether a column takes what stands under a standard type. -/
def takesStandard (column : ServerType) (t : Standard) : Bool :=
  (Kind.ofStandard? t).all fun k => k.accepts column

section Accepts

variable {column : ServerType} {position : Nat} {v : Value} {tag : Tag} {p : Param} {t : Standard}

lemma accepts_null : (Argument.ofParam (.null (.standard t))).accepts column =
    takesStandard column t := by
  simp only [Argument.ofParam, Kind.ofTag?, takesStandard]
  cases Kind.ofStandard? t <;> rfl

lemma accepts_typed {tv : TypedValue} (h : t.kind? = some tv.value.kind) :
    (Argument.ofParam (.typed tag tv)).accepts column = takesStandard column t := by
  rw [takesStandard, ofStandard?_of_kind h]
  rfl

lemma kind?_of_ofValue {tv : TypedValue} (h : TypedValue.ofValue tag v = .ok tv) :
    ∃ t, tag = .standard t ∧ t.kind? = some tv.value.kind := by
  rw [value_of_ofValue h]
  cases tag with
  | other c => cases h
  | standard t =>
    refine ⟨t, rfl, ?_⟩
    by_cases ht : t = .null
    · subst ht
      cases h
    · by_contra hne
      rw [ofValue_of_ne_kind ht hne] at h
      cases h

lemma accepts_of_standard (ht : tag.normalize = .standard t)
    (hp : Binding.param position v (some tag) = .ok p) :
    (Argument.ofParam p).accepts column = takesStandard column t := by
  have hbound := boundAs_param position v tag
  rw [hp, ht] at hbound
  cases hbound with
  | null h => exact accepts_null
  | object hv htag => cases htag
  | typed htag hkind hvalue =>
    cases htag
    exact accepts_typed (hvalue ▸ hkind)

lemma accepts_of_isNull {declared : Option Tag} (hv : v.isNull = true)
    (hdeclared : ∀ tag t, declared = some tag → tag.normalize ≠ .standard t)
    (hp : Binding.param position v declared = .ok p) :
    (Argument.ofParam p).accepts column = true := by
  cases declared with
  | none =>
    cases hp
    rw [isNull_eq_true hv]
    rfl
  | some tag =>
    rw [param_of_null hv] at hp
    cases hp
    cases htag : tag.normalize with
    | standard t => exact absurd htag (hdeclared tag t rfl)
    | other c => rfl

end Accepts

/-! ### Rows -/

/-- Which parameters of a row their columns take. -/
def columnsTake (columns : List ServerType) (row : Row) : List Bool :=
  List.zipWith (fun column p => (Argument.ofParam p).accepts column) columns row

/-- Two records of the same width, the fields of which are the same at every index at which no
standard type is declared. -/
structure SameButTyped (declared : Option (List Tag)) (r r' : Record) : Prop where
  arity : r'.arity = r.arity
  fields : ∀ {i : Nat} {v v' : Value}, r.fields[i]? = some v → r'.fields[i]? = some v' → v' = v ∨
    ∃ tag t, Binding.declared? declared i = some tag ∧ tag.normalize = .standard t

/-- The second record has nulls in place of some fields of the first. -/
structure Blanked (r r' : Record) : Prop where
  arity : r'.arity = r.arity
  fields : ∀ {i : Nat} {v v' : Value}, r.fields[i]? = some v → r'.fields[i]? = some v' →
    v' = v ∨ v'.isNull = true

section Records

variable {declared : Option (List Tag)} {r r' : Record} {row row' : Row}

lemma getElem?_boundPrefix {vs : List Value} {index i : Nat} {p : Param}
    (h : (boundPrefix declared index vs)[i]? = some p) :
    ∃ v, vs[i]? = some v ∧
      Binding.param (index + i + 1) v (Binding.declared? declared (index + i)) = .ok p := by
  induction vs generalizing index i with
  | nil => cases h
  | cons v vs ih =>
    rw [boundPrefix] at h
    split at h
    · rename_i q hq
      cases i with
      | zero =>
        cases h
        exact ⟨v, rfl, hq⟩
      | succ i =>
        obtain ⟨v', hv', hp⟩ := ih h
        rw [Nat.add_assoc index, Nat.add_comm 1] at hp
        exact ⟨v', hv', hp⟩
    · cases h

lemma length_boundPrefix {vs : List Value} {index : Nat}
    (h : ∀ i v, vs[i]? = some v →
      ∃ p, Binding.param (index + i + 1) v (Binding.declared? declared (index + i)) = .ok p) :
    (boundPrefix declared index vs).length = vs.length := by
  induction vs generalizing index with
  | nil => rfl
  | cons v vs ih =>
    obtain ⟨p, hp⟩ := h 0 v rfl
    simp only [Nat.add_zero] at hp
    have hrest : ∀ i v', vs[i]? = some v' → ∃ p, Binding.param (index + 1 + i + 1) v'
        (Binding.declared? declared (index + 1 + i)) = .ok p := by
      intro i v' hv'
      rw [Nat.add_assoc index, Nat.add_comm 1]
      exact h (i + 1) v' hv'
    simp only [boundPrefix, hp, List.length_cons, ih hrest]

lemma param_of_rowOf (h : rowOf declared r = .ok row) {i : Nat} {p : Param}
    (hp : row[i]? = some p) :
    ∃ v, r.fields[i]? = some v ∧
      Binding.param (i + 1) v (Binding.declared? declared i) = .ok p := by
  obtain ⟨rfl, -⟩ := (rowOf_eq_ok_iff declared r row).mp h
  simpa only [Nat.zero_add] using getElem?_boundPrefix hp

lemma length_of_rowOf (h : rowOf declared r = .ok row) : row.length = r.arity :=
  ((rowOf_eq_ok_iff declared r row).mp h).2

lemma exists_param (hlength : row'.length = row.length) {i : Nat} {p : Param}
    (hp : row[i]? = some p) : ∃ p', row'[i]? = some p' := by
  have hi : i < row'.length := hlength ▸ (List.getElem?_eq_some_iff.mp hp).1
  exact ⟨_, List.getElem?_eq_getElem hi⟩

lemma columnsTake_of {columns : List ServerType} {b : Bool} (hlength : row'.length = row.length)
    (h : ∀ (i : Nat) (p p' : Param) (column : ServerType), row[i]? = some p → row'[i]? = some p' →
      (Argument.ofParam p).accepts column = b → (Argument.ofParam p').accepts column = b)
    {i : Nat} (hi : (columnsTake columns row)[i]? = some b) :
    (columnsTake columns row')[i]? = some b := by
  obtain ⟨column, p, hcolumn, hp, htaken⟩ := List.getElem?_zipWith_eq_some.mp hi
  obtain ⟨p', hp'⟩ := exists_param hlength hp
  exact List.getElem?_zipWith_eq_some.mpr
    ⟨column, p', hcolumn, hp', h i p p' column hp hp' htaken⟩

namespace SameButTyped

lemma symm (h : SameButTyped declared r r') : SameButTyped declared r' r where
  arity := h.arity.symm
  fields hv hv' := (h.fields hv' hv).imp Eq.symm id

lemma length_eq (h : SameButTyped declared r r') (hrow : rowOf declared r = .ok row)
    (hrow' : rowOf declared r' = .ok row') : row'.length = row.length := by
  rw [length_of_rowOf hrow, length_of_rowOf hrow', h.arity]

lemma taken (h : SameButTyped declared r r') (hrow : rowOf declared r = .ok row)
    (hrow' : rowOf declared r' = .ok row') {columns : List ServerType} {i : Nat} {b : Bool}
    (hi : (columnsTake columns row)[i]? = some b) : (columnsTake columns row')[i]? = some b := by
  refine columnsTake_of (h.length_eq hrow hrow') ?_ hi
  intro i p p' column hp hp' htaken
  obtain ⟨v, hv, hparam⟩ := param_of_rowOf hrow hp
  obtain ⟨v', hv', hparam'⟩ := param_of_rowOf hrow' hp'
  rcases h.fields hv hv' with rfl | ⟨tag, t, hdeclared, ht⟩
  · rw [hparam, Except.ok.injEq] at hparam'
    rwa [← hparam']
  · rw [hdeclared] at hparam hparam'
    rwa [accepts_of_standard ht hparam', ← accepts_of_standard ht hparam]

lemma columnsTake_eq (h : SameButTyped declared r r') (hrow : rowOf declared r = .ok row)
    (hrow' : rowOf declared r' = .ok row') (columns : List ServerType) :
    columnsTake columns row' = columnsTake columns row :=
  List.ext_getElem? fun _ => Option.ext fun _ => ⟨h.symm.taken hrow' hrow, h.taken hrow hrow'⟩

end SameButTyped

namespace Blanked

lemma exists_row (h : Blanked r r') (hrow : rowOf declared r = .ok row) :
    ∃ row', rowOf declared r' = .ok row' := by
  refine ⟨_, (rowOf_eq_ok_iff declared r' _).mpr ⟨rfl, length_boundPrefix ?_⟩⟩
  intro i v' hv'
  rw [Nat.zero_add]
  have hi : i < row.length := by
    rw [length_of_rowOf hrow, ← h.arity]
    exact (List.getElem?_eq_some_iff.mp hv').1
  obtain ⟨v, hv, hparam⟩ := param_of_rowOf hrow (List.getElem?_eq_getElem hi)
  rcases h.fields hv hv' with rfl | hnull
  · exact ⟨_, hparam⟩
  · cases hdeclared : Binding.declared? declared i with
    | none => exact ⟨_, rfl⟩
    | some tag => exact ⟨_, param_of_null hnull⟩

lemma taken (h : Blanked r r') (hrow : rowOf declared r = .ok row)
    (hrow' : rowOf declared r' = .ok row') {columns : List ServerType} {i : Nat}
    (hi : (columnsTake columns row)[i]? = some true) :
    (columnsTake columns row')[i]? = some true := by
  have hlength : row'.length = row.length := by
    rw [length_of_rowOf hrow, length_of_rowOf hrow', h.arity]
  refine columnsTake_of hlength ?_ hi
  intro i p p' column hp hp' htaken
  obtain ⟨v, hv, hparam⟩ := param_of_rowOf hrow hp
  obtain ⟨v', hv', hparam'⟩ := param_of_rowOf hrow' hp'
  rcases h.fields hv hv' with rfl | hnull
  · rw [hparam, Except.ok.injEq] at hparam'
    rwa [← hparam']
  · by_cases hstandard : ∃ tag t, Binding.declared? declared i = some tag ∧
        tag.normalize = .standard t
    · obtain ⟨tag, t, hdeclared, ht⟩ := hstandard
      rw [hdeclared] at hparam hparam'
      rwa [accepts_of_standard ht hparam', ← accepts_of_standard ht hparam]
    · refine accepts_of_isNull hnull ?_ hparam'
      exact fun tag t hdeclared ht => hstandard ⟨tag, t, hdeclared, ht⟩

end Blanked

end Records

/-! ### Executions -/

section Executions

variable {library : Library} {columns : List ServerType} {row : Row}

lemma length_le_cellsLength {cells : List (Option (List UInt8))} {bytes : List UInt8}
    (h : some bytes ∈ cells) : bytes.length ≤ Postgres.cellsLength cells := by
  induction cells with
  | nil => cases h
  | cons cell cells ih =>
    rw [Postgres.cellsLength]
    rcases List.mem_cons.mp h with rfl | h
    · exact Nat.le_add_right_of_le (Nat.le_add_left ..)
    · exact Nat.le_add_left_of_le (ih h)

lemma fits_of_messageLength {name : String}
    (h : Postgres.messageLength name (rowCells columns row) < 2 ^ 31) :
    ∀ x ∈ columns.zip row, (Argument.ofParam x.2).fits x.1 = true := by
  intro x hx
  refine Option.all_eq_true _ _ |>.mpr fun bytes hbytes => decide_eq_true ?_
  have hcell : some bytes ∈ rowCells columns row := List.mem_map.mpr ⟨x, hx, hbytes⟩
  have hle := length_le_cellsLength hcell
  unfold Postgres.messageLength at h
  omega

lemma sent_of_columnsTake (hfits : ∀ x ∈ columns.zip row, (Argument.ofParam x.2).fits x.1 = true)
    (htake : false ∉ columnsTake columns row) : ∀ x ∈ columns.zip row, isSent x.1 x.2 = true := by
  intro x hx
  have haccepts : (Argument.ofParam x.2).accepts x.1 = true := by
    by_contra hrefused
    refine htake ?_
    rw [columnsTake, ← List.map_uncurry_zip_eq_zipWith]
    exact List.mem_map.mpr ⟨x, hx, eq_false_of_ne_true hrefused⟩
  rw [isSent, haccepts, hfits x hx]
  rfl

variable (library) in
lemma cells_of_refused (index : Nat)
    (hfits : ∀ x ∈ columns.zip row, (Argument.ofParam x.2).fits x.1 = true) {i : Nat}
    {column : ServerType} {p : Param} (hi : (columnsTake columns row).idxOf? false = some i)
    (hp : (columns.zip row)[i]? = some (column, p)) :
    Postgres.cells library index columns (row.map Argument.ofParam) =
      .error (Postgres.unfit (index + i) (library.misfit column (Argument.ofParam p))) := by
  induction columns generalizing index row i with
  | nil => cases hp
  | cons first columns ih =>
    cases row with
    | nil => cases hp
    | cons q row =>
      rw [List.zip_cons_cons, List.forall_mem_cons] at hfits
      obtain ⟨hq, hrest⟩ := hfits
      simp only [columnsTake, List.zipWith_cons_cons, List.idxOf?_cons] at hi
      simp only [List.map_cons, Postgres.cells, hq]
      cases haccepts : (Argument.ofParam q).accepts first with
      | false =>
        rw [haccepts] at hi
        cases hi
        cases hp
        rfl
      | true =>
        rw [haccepts] at hi
        obtain ⟨k, hk, rfl⟩ := Option.map_eq_some_iff.mp hi
        have hnext := ih (index + 1) hrest hk hp
        have hshift : index + 1 + k = index + (k + 1) := by omega
        simp only [Bool.not_true, Bool.false_eq_true, if_false, hnext, hshift]
        rfl

end Executions

/-- A null under a type is of the same kind as every value under it and fits the same columns, and
one under the type of null or under a bare code fits all. So of two records that can be bound, and
that differ only where standard types are declared, columns take the same parameters, whether these
are nulls or not. Where no standard type is declared a value may not fit, but a null does: with
nulls in place of any of its fields a record can still be bound, and columns take what they have
taken before. A row of the right width whose message is not too long is sent if every column takes
its parameter, and refused for the first that does not. -/
theorem null_fits_as_value :
    (∀ (tag : Tag) (v : Value) (tv : TypedValue) (column : ServerType),
      TypedValue.ofValue tag v = .ok tv → Kind.ofTag? tag = some (Datum.ofTyped tv).kind ∧
        (Argument.ofParam (.null tag)).accepts column =
          (Argument.ofParam (.typed tag tv)).accepts column) ∧
    (∀ column : ServerType, (Argument.ofParam (.null (.standard .null))).accepts column = true ∧
      ∀ code : Int32, (Argument.ofParam (.null (.other code))).accepts column = true) ∧
    (∀ (declared : Option (List Tag)) (r r' : Record) (row : Row), rowOf declared r = .ok row →
      (∀ row' : Row, SameButTyped declared r r' → rowOf declared r' = .ok row' →
        ∀ columns : List ServerType, columnsTake columns row' = columnsTake columns row) ∧
      (Blanked r r' → ∃ row' : Row, rowOf declared r' = .ok row' ∧
        ∀ (columns : List ServerType) (i : Nat), (columnsTake columns row)[i]? = some true →
          (columnsTake columns row')[i]? = some true)) ∧
    ∀ {σ : Type} (server : Postgres.Server σ) (s : Postgres.Statement) (row : Row) (w : σ),
      row.length = s.types.length → row.length ≤ server.library.maxParameters →
      Postgres.messageLength s.name (rowCells s.types row) < 2 ^ 31 →
      (false ∉ columnsTake s.types row → Postgres.Statement.executeRow server s row w =
        server.execute s.session s.sql (rowCells s.types row) w) ∧
      ∀ (i : Nat) (column : ServerType) (p : Param),
        (columnsTake s.types row).idxOf? false = some i →
        (s.types.zip row)[i]? = some (column, p) →
        Postgres.Statement.executeRow server s row w =
          (.error (Postgres.unfit i (server.library.misfit column (Argument.ofParam p))), w) := by
  refine ⟨?_, fun column => ⟨rfl, fun code => rfl⟩, ?_, ?_⟩
  · intro tag v tv column htyped
    obtain ⟨t, rfl, hkind⟩ := kind?_of_ofValue htyped
    refine ⟨ofStandard?_of_kind hkind, ?_⟩
    rw [accepts_null, accepts_typed hkind]
  · intro declared r r' row hrow
    constructor
    · intro row' hsame hrow' columns
      exact hsame.columnsTake_eq hrow hrow' columns
    · intro hblanked
      obtain ⟨row', hrow'⟩ := hblanked.exists_row hrow
      exact ⟨row', hrow', fun columns i => hblanked.taken hrow hrow'⟩
  · intro σ server s row w hwidth hroom hlength
    have hfits := fits_of_messageLength hlength
    constructor
    · intro htake
      have hsent := sent_of_columnsTake hfits htake
      rw [Postgres.Statement.executeRow, message_of_sendable ⟨hwidth, hroom, hsent, hlength⟩]
    · intro i column p hi hp
      have hcells := cells_of_refused server.library 0 hfits hi hp
      rw [Nat.zero_add] at hcells
      rw [Postgres.Statement.executeRow, message_of_room hwidth hroom, hcells, Except.bind]

/-- An integer of one byte and its null fit columns of two bytes, and neither fits one of four. The
columns of the second field, a type of the user among them, are those of texts. -/
theorem null_fits_as_value_of_tinyInt :
    let declared : Option (List Tag) := some [.standard .tinyInt, .other 12]
    let r : Record := ⟨[.int8 (-1), .string "x"]⟩
    let r' : Record := ⟨[.null, .null]⟩
    ∃ row row', rowOf declared r = .ok row ∧ rowOf declared r' = .ok row' ∧
      SameButTyped declared r r' ∧
      columnsTake [⟨21, "int2"⟩, ⟨16400, "citext"⟩] row' = [true, true] ∧
      columnsTake [⟨21, "int2"⟩, ⟨16400, "citext"⟩] row = [true, true] ∧
      columnsTake [⟨23, "int4"⟩, ⟨16400, "mood"⟩] row' = [false, false] ∧
      columnsTake [⟨23, "int4"⟩, ⟨16400, "mood"⟩] row = [false, false] := by
  intro declared r r'
  have hrow : rowOf declared r = .ok _ := rfl
  have hrow' : rowOf declared r' = .ok _ := rfl
  have hsame : SameButTyped declared r r' := by
    refine ⟨rfl, ?_⟩
    intro i v v' hv hv'
    match i with
    | 0 => exact .inr ⟨_, _, rfl, rfl⟩
    | 1 => exact .inr ⟨_, _, rfl, rfl⟩
  obtain ⟨-, -, hrecords, -⟩ := null_fits_as_value
  have htaken := (hrecords declared r r' _ hrow).1 _ hsame hrow'
  refine ⟨_, _, hrow, hrow', hsame, ?_, by decide, ?_, by decide⟩
  · rw [htaken]
    decide
  · rw [htaken]
    decide

end BatchInsert.Proofs
