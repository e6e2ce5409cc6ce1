import BatchInsert.Proofs.JsonText
import BatchInsert.Proofs.ScalarText
import BatchInsert.Proofs.ToldValues

/-!
# Records as texts

A record without floating-point numbers is read back from its compact form, field by field. Each
value is written under the name of its kind, which selects the reader of its payload, and every
payload is read back by the reader of its kind.
-/

namespace BatchInsert.Proofs

open Calendar (DateTime Time)
open Json (Cursor Depth)
open Outline

variable {α : Type}

/-- No floating-point number, also inside JSON. -/
def IsExactValue : Value → Prop
  | .float32 _ => False
  | .float64 _ => False
  | .json j => IsExact j
  | _ => True

/-- The arrays and objects of a payload. -/
def payloadLevels : Value → Nat
  | .bytes _ => 1
  | .json j => jsonLevels j
  | _ => 0

/-- How deep the text of a value is nested. -/
def valueLevels (v : Value) : Nat := if v.isNull then 0 else payloadLevels v + 1

/-- How deep the text of a record is nested. -/
def recordLevels (r : Record) : Nat := (r.fields.map valueLevels).max?.getD 0 + 1

/-- The value that is read from the text of `v`. -/
def valueAsRead : Value → Value
  | .decimal d => .decimal d.unsignedZero
  | .time t => .time (timeAsRead t)
  | .dateTime dt => .dateTime (dateTimeAsRead dt)
  | .moment utc => .moment (dateTimeAsRead utc)
  | v => v

def recordAsRead (r : Record) : Record := ⟨r.fields.map valueAsRead⟩

lemma valueAsRead_eq_self_iff {v : Value} : valueAsRead v = v ↔ IsTold v := by
  cases v with
  | decimal d => exact Value.decimal.injEq .. ▸ Iff.rfl
  | time t => exact Value.time.injEq .. ▸ timeAsRead_eq_self_iff
  | dateTime dt =>
    simp only [valueAsRead, dateTimeAsRead, Value.dateTime.injEq, IsTold, ← timeAsRead_eq_self_iff]
    exact ⟨congrArg DateTime.time, fun h => congrArg (DateTime.mk dt.date) h⟩
  | moment utc =>
    simp only [valueAsRead, dateTimeAsRead, Value.moment.injEq, IsTold, ← timeAsRead_eq_self_iff]
    exact ⟨congrArg DateTime.time, fun h => congrArg (DateTime.mk utc.date) h⟩
  | _ => exact iff_of_true rfl True.intro

lemma recordAsRead_eq_self_iff {r : Record} : recordAsRead r = r ↔ ∀ v ∈ r.fields, IsTold v := by
  have hfields : r.fields.map valueAsRead = r.fields ↔ ∀ v ∈ r.fields, valueAsRead v = v := by
    simpa using List.map_inj_left (l := r.fields) (f := valueAsRead) (g := id)
  simp only [← valueAsRead_eq_self_iff, ← hfields]
  exact ⟨congrArg Record.fields, congrArg Record.mk⟩

/-! ### Payloads -/

section Payload

variable {k : Value.Kind} {depth : Depth} {v : Value}

lemma readPayload_scalar {printed : List Char} {s : Document.Scalar}
    (h : ReadsBack Cursor.lexeme printed (.scalar s)) (hk : (k == .json) = false)
    (hv : Value.ofScalar k s = .ok v) : ReadsBack (Value.readPayload k depth) printed v where
  begins := h.begins
  reads hrest hends := by
    obtain ⟨mid, hmid, rfl⟩ := outcome_eq_some.mp (h.reads hrest hends)
    simp only [Value.readPayload, hk, hmid]
    change outcome (Value.settle mid (Value.ofScalar k s)) = _
    rw [hv]
    rfl

lemma readPayload_integer (width : Nat) (build : Int → Value) {i : Int}
    (hi : -2 ^ (width - 1) ≤ i ∧ i < 2 ^ (width - 1)) (hwidth : (2 : Int) ^ (width - 1) ≤ 2 ^ 63)
    (hbuild : build i = v) (hk : (k == .json) = false)
    (hread : Value.ofScalar k (.integer i) = Value.ofInteger k width build (.integer i)) :
    ReadsBack (Value.readPayload k depth) (Text.integer i).toList v := by
  refine readPayload_scalar (readsBack_integer ⟨by omega, by omega⟩) hk ?_
  rw [hread, Value.ofInteger, if_pos hi, hbuild]

lemma readPayload_readable {ε β : Type} {read : String → Except ε β} {message : ε → String}
    (build : β → Value) {s : String} {b : β} (h : read s = .ok b) (hk : (k == .json) = false)
    (hread : ∀ s,
      Value.ofScalar k (.string s) = Value.ofReadable k read message build (.string s)) :
    ReadsBack (Value.readPayload k depth) (Json.stringChars s) (build b) := by
  refine readPayload_scalar (readsBack_string s) hk ?_
  simp only [hread, Value.ofReadable, h]

lemma readsBack_byte (b : UInt8) : ReadsBack Value.readByte (Text.decimalChars b.toNat) b := by
  have hlt : b.toNat < 256 := b.toNat_lt
  have hlexeme := readsBack_natural (Nat.lt_trans hlt (by decide))
  refine ⟨hlexeme.begins, fun {cur tail} hrest hends => ?_⟩
  obtain ⟨mid, hmid, rfl⟩ := outcome_eq_some.mp (hlexeme.reads hrest hends)
  have hbyte : Value.ofByte (.integer b.toNat) = .ok b := by
    simp only [Value.ofByte]
    rw [if_pos ⟨by omega, by omega⟩, Int.toNat_natCast, UInt8.ofNat_toNat]
  simp only [Value.readByte, hmid, Bind.bind, Except.bind, hbyte]
  rfl

lemma readPayload_bytes (bs : List UInt8) (hdepth : 1 < depth) :
    ReadsBack (Value.readPayload .bytes depth)
      (Json.arrayChars (bs.map fun b => Text.decimalChars b.toNat)) (.bytes bs) where
  begins := rfl
  reads {cur tail} hrest hends := by
    have hbytes : List.Forall₂ (ReadsBack Value.readByte)
        (bs.map fun b => Text.decimalChars b.toNat) bs := by
      rw [List.forall₂_map_left_iff, List.forall₂_same]
      exact fun b _ => readsBack_byte b
    have harray : ReadsBack (fun cur => Cursor.array depth (fun _ => Value.readByte) cur)
        (Json.arrayChars (bs.map fun b => Text.decimalChars b.toNat)) bs :=
      readsBack_array hdepth hbytes
    obtain ⟨mid, hmid, rfl⟩ := outcome_eq_some.mp (harray.reads hrest hends)
    have hlexeme : cur.lexeme = .ok (.array, cur) := lexeme_of_bracket hrest
    have hkind : (Value.Kind.bytes == .json) = false := rfl
    simp only [Value.readPayload, hkind, hlexeme]
    change outcome (Cursor.array depth (fun _ => Value.readByte) cur >>= fun x => _) = _
    rw [hmid]
    rfl

lemma readPayload_json {j : Json} (hexact : IsExact j) (hdepth : jsonLevels j < depth) :
    ReadsBack (Value.readPayload .json depth) j.chars (.json j) where
  begins := (readsBack_json j hexact (Nat.le_refl _) hdepth).begins
  reads {cur tail} hrest hends := by
    have hfuel : 2 * j.chars.length ≤ 2 * cur.rest.length + 2 := by
      rw [hrest, List.length_append]
      omega
    obtain ⟨mid, hmid, rfl⟩ :=
      outcome_eq_some.mp ((readsBack_json j hexact hfuel hdepth).reads hrest hends)
    change outcome (Cursor.value depth cur >>= fun x => _) = _
    rw [Cursor.value, hmid]
    rfl

lemma readsBack_payload (v : Value) (hexact : IsExactValue v) (hdepth : payloadLevels v < depth) :
    ReadsBack (Value.readPayload v.kind depth) v.payloadChars (valueAsRead v) := by
  cases v with
  | null => exact readPayload_scalar readsBack_null rfl rfl
  | bool b => exact readPayload_scalar (readsBack_bool b) rfl rfl
  | int8 n =>
    exact readPayload_integer 8 (fun i => .int8 (Int8.ofInt i)) ⟨n.le_toInt, n.toInt_lt⟩
      (by decide) (congrArg Value.int8 n.ofInt_toInt) rfl rfl
  | int16 n =>
    exact readPayload_integer 16 (fun i => .int16 (Int16.ofInt i)) ⟨n.le_toInt, n.toInt_lt⟩
      (by decide) (congrArg Value.int16 n.ofInt_toInt) rfl rfl
  | int32 n =>
    exact readPayload_integer 32 (fun i => .int32 (Int32.ofInt i)) ⟨n.le_toInt, n.toInt_lt⟩
      (by decide) (congrArg Value.int32 n.ofInt_toInt) rfl rfl
  | int64 n =>
    exact readPayload_integer 64 (fun i => .int64 (Int64.ofInt i)) ⟨n.le_toInt, n.toInt_lt⟩
      (by decide) (congrArg Value.int64 n.ofInt_toInt) rfl rfl
  | float32 x => exact hexact.elim
  | float64 x => exact hexact.elim
  | decimal d =>
    refine readPayload_scalar (readsBack_string d.text) rfl ?_
    simp only [Value.kind, Value.ofScalar, Value.ofDecimal, decimal_ofText, valueAsRead]
  | string s => exact readPayload_scalar (readsBack_string s) rfl rfl
  | bytes bs => exact readPayload_bytes bs hdepth
  | date d => exact readPayload_readable .date (date_ofText d) rfl fun _ => rfl
  | time t => exact readPayload_readable .time (time_ofText t) rfl fun _ => rfl
  | dateTime dt => exact readPayload_readable .dateTime (dateTime_ofText dt) rfl fun _ => rfl
  | moment utc => exact readPayload_readable .moment (moment_ofZonedText utc) rfl fun _ => rfl
  | uuid u => exact readPayload_readable .uuid (uuid_ofText u) rfl fun _ => rfl
  | json j => exact readPayload_json hexact hdepth

end Payload

/-! ### Values -/

lemma readLabel_printed {k : Value.Kind} {cur : Cursor} {rest : List Char}
    (hrest : cur.rest = Json.stringChars k.label ++ rest) :
    ∃ mid, Value.readLabel cur = .ok (k, mid) ∧ mid.rest = rest := by
  obtain ⟨mid, hmid, hmidrest⟩ := lexeme_stringChars hrest
  have hlabel : Value.kindOfLabel k.label = .ok k := by
    rw [Value.kindOfLabel, k.ofLabel?_label]
  refine ⟨mid, ?_, hmidrest⟩
  rw [Value.readLabel, hmid]
  change Value.settle mid (Value.kindOfLabel k.label) = _
  rw [hlabel]
  rfl

lemma readsBack_nullValue (depth : Depth) :
    ReadsBack (Value.read depth) (Json.stringChars Value.Kind.null.label) .null where
  begins := rfl
  reads {cur tail} hrest _ := by
    obtain ⟨mid, hmid, rfl⟩ := readLabel_printed hrest
    have hquote := hrest.trans (stringChars_append ..)
    simp only [Value.read, skipBlanks_of_cons hquote (by decide), hquote, hmid]
    rfl

lemma readsBack_labelled {v w : Value} {depth : Depth} (hdepth : 1 < depth)
    (h : ReadsBack (Value.readPayload v.kind (depth - 1)) v.payloadChars w) :
    ReadsBack (Value.read depth) (Json.objectChars [(v.kind.label, v.payloadChars)]) w where
  begins := rfl
  reads {cur tail} hrest _ := by
    have hbrace : cur.rest = '\x7b' :: (Json.stringChars v.kind.label ++
        ':' :: (v.payloadChars ++ '\x7d' :: tail)) := by
      rw [hrest]
      simp [Json.objectChars, Json.commaSeparated]
    have hdescend : cur.descend depth = .ok (depth - 1) := if_neg (Nat.not_le.mpr hdepth)
    have hskip : cur.skip.rest = Json.stringChars v.kind.label ++
        ':' :: (v.payloadChars ++ '\x7d' :: tail) := by
      rw [Cursor.skip, hbrace]
      exact Cursor.rest_after ..
    obtain ⟨name, hname, hnamerest⟩ := readLabel_printed hskip
    have hends : Ends ('\x7d' :: tail) := ends_listed rfl [] tail
    obtain ⟨mid, hmid, hmidrest⟩ := outcome_eq_some.mp
      (h.reads (Cursor.rest_after name ':' _) hends)
    have hclose : mid.skip.rest = tail := by
      rw [Cursor.skip, hmidrest]
      exact Cursor.rest_after ..
    refine outcome_eq_some.mpr ⟨mid.skip, ?_, hclose⟩
    simp only [Value.read, skipBlanks_of_cons hbrace (by decide), hbrace, hdescend, hname,
      colon_of_cons hnamerest, hmid, Bind.bind, Except.bind,
      skipBlanks_of_cons hmidrest (by decide), hmidrest]
    rfl

lemma readsBack_value {v : Value} (hexact : IsExactValue v) {depth : Depth}
    (hdepth : valueLevels v < depth) :
    ReadsBack (Value.read depth) v.jsonChars (valueAsRead v) := by
  unfold Value.jsonChars
  unfold valueLevels at hdepth
  split at hdepth
  case isTrue hnull =>
    rw [if_pos hnull]
    obtain rfl : v = .null := by
      cases v <;> first | rfl | cases hnull
    exact readsBack_nullValue depth
  case isFalse hnull =>
    rw [if_neg hnull]
    have hopen : 1 < depth := Nat.lt_of_le_of_lt (Nat.le_add_left 1 _) hdepth
    exact readsBack_labelled hopen (readsBack_payload v hexact (Nat.lt_sub_of_add_lt hdepth))

/-! ### Records -/

lemma valueLevels_lt {r : Record} {v : Value} (hv : v ∈ r.fields) :
    valueLevels v < recordLevels r :=
  Nat.lt_succ_of_le (List.le_max?_getD_of_mem (List.mem_map_of_mem hv))

lemma record_like (depth : Depth) : ReadsLike (Record.read depth)
    (chain (fun cur => Cursor.sequence depth Value.read cur) fun fields => give ⟨fields⟩) := by
  intro cur
  simp only [Record.read, chain]
  cases Cursor.sequence depth Value.read cur <;> rfl

lemma readsBack_record {r : Record} (hexact : ∀ v ∈ r.fields, IsExactValue v) {depth : Depth}
    (hdepth : recordLevels r < depth) :
    ReadsBack (Record.read depth) r.jsonChars (recordAsRead r) := by
  have hopen : 1 < depth := Nat.lt_of_le_of_lt (Nat.le_add_left 1 _) hdepth
  have hfields : List.Forall₂ (ReadsBack (Value.read (depth - 1)))
      (r.fields.map Value.jsonChars) (r.fields.map valueAsRead) := by
    rw [List.forall₂_map_left_iff, List.forall₂_map_right_iff, List.forall₂_same]
    intro v hv
    have hlevels := valueLevels_lt hv
    exact readsBack_value (hexact v hv) (by omega)
  exact .congr ((readsBack_sequence hopen hfields).chain fun mid => rfl) (record_like depth)

lemma record_ofText {r : Record} (hexact : ∀ v ∈ r.fields, IsExactValue v)
    (hlevels : recordLevels r < 128) : Record.ofText r.jsonText = .ok (recordAsRead r) := by
  have hrest : (Cursor.start r.jsonText).rest = r.jsonChars ++ [] := by
    rw [List.append_nil]
    exact String.toList_ofList
  exact readWith_eq_ok.mpr
    ⟨[], (readsBack_record hexact hlevels).reads hrest (by simp [Ends]), by simp⟩

/-- A record without floating-point numbers, nested in fewer than 128 levels, is read from its
text, each field as a value of its kind. It is the same record exactly if its leap seconds end
minutes and its zeros have no sign, as they do in every record that comes from a text. -/
theorem record_round_trip {r : Record} (hexact : ∀ v ∈ r.fields, IsExactValue v)
    (hlevels : recordLevels r < 128) :
    Record.ofText r.jsonText = .ok (recordAsRead r) ∧
      (Record.ofText r.jsonText = .ok r ↔ ∀ v ∈ r.fields, IsTold v) ∧
        ∀ s, Record.ofText s = .ok r → Record.ofText r.jsonText = .ok r := by
  have hread := record_ofText hexact hlevels
  have hsame : Record.ofText r.jsonText = .ok r ↔ ∀ v ∈ r.fields, IsTold v := by
    rw [hread, Except.ok.injEq, recordAsRead_eq_self_iff]
  exact ⟨hread, hsame, fun s hs => hsame.mpr (told_of_ofText hs)⟩

/-- Both nulls, the ends of the integers, places of a decimal, escapes, years of more than four
digits, a leap second, and JSON with the ends of its integers. -/
def specialRecord : Record :=
  let early : Calendar.Date := ⟨-262143, 1, 1, by decide, by decide, by decide⟩
  let late : Calendar.Date := ⟨10000, 2, 29, by decide, by decide, by decide⟩
  let leap : Time := ⟨23, 59, 59, 1500000000, by decide, by decide, by decide, by decide⟩
  ⟨[.null, .json .null, .bool true, .int8 (-128), .int64 (-9223372036854775808),
    .decimal ⟨true, 100, 2, by decide, by decide⟩, .string "\"\\\n\x01é",
    .bytes [0, 255], .date early, .time leap, .dateTime ⟨late, leap⟩, .moment ⟨early, leap⟩,
    .uuid ⟨0⟩,
    .json (.object [("", .array [.number (.integer 18446744073709551615)]),
      ("a", .object [("b", .number (.integer (-9223372036854775808)))])])]⟩

theorem record_round_trip_special :
    (∀ v ∈ specialRecord.fields, IsExactValue v) ∧ recordLevels specialRecord = 4 ∧
      Record.ofText specialRecord.jsonText = .ok specialRecord := by
  have hexact : ∀ v ∈ specialRecord.fields, IsExactValue v := by
    simp only [specialRecord, List.forall_mem_cons, IsExactValue, IsExact, AllExact, MembersExact,
      true_and, and_true]
    exact ⟨⟨by decide, by decide, by decide, by decide⟩, by simp⟩
  have htold : ∀ v ∈ specialRecord.fields, IsTold v := by
    simp [specialRecord, IsTold, EndsMinute, Decimal.unsignedZero]
  have hlevels : recordLevels specialRecord = 4 := by decide
  exact ⟨hexact, hlevels, (record_round_trip hexact (by rw [hlevels]; decide)).2.1.mpr htold⟩

/-- A leap second in the middle of a minute, and a zero below zero. -/
def untoldRecord : Record :=
  ⟨[.time ⟨12, 30, 30, 1500000000, by decide, by decide, by decide, by decide⟩,
    .decimal ⟨true, 0, 2, by decide, by decide⟩]⟩

/-- The record that its text tells is another one. -/
theorem untold_record_changes :
    (∀ v ∈ untoldRecord.fields, IsExactValue v) ∧ recordLevels untoldRecord = 2 ∧
      Record.ofText untoldRecord.jsonText =
        .ok ⟨[.time ⟨12, 30, 31, 500000000, by decide, by decide, by decide, by decide⟩,
          .decimal ⟨false, 0, 2, by decide, by decide⟩]⟩ ∧
      Record.ofText untoldRecord.jsonText ≠ .ok untoldRecord := by
  have hexact : ∀ v ∈ untoldRecord.fields, IsExactValue v := by simp [untoldRecord, IsExactValue]
  have hlevels : recordLevels untoldRecord = 2 := by decide
  have hread := record_ofText hexact (by rw [hlevels]; decide)
  refine ⟨hexact, hlevels, hread, ?_⟩
  rw [hread]
  simp [recordAsRead, valueAsRead, timeAsRead, untoldRecord]

end BatchInsert.Proofs
