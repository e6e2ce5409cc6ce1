import BatchInsert.Proofs.CalendarText
import BatchInsert.Proofs.Loading
import BatchInsert.Record
import Mathlib.Tactic.SplitIfs

/-!
# Values that their text tells

A text shows a leap second as second 60, and a distance from UTC is a number of whole minutes. So
a leap second that has been read is the last second of a minute. A zero that has been read has no
sign. All else of a value is told by its text.
-/

namespace BatchInsert.Proofs

open Calendar (Date Time DateTime)
open Json (Cursor Depth)

variable {α β : Type}

/-! ### Times -/

section Time

variable {P : α → Prop} {Q : β → Prop} {r : Calendar.Reader α} {cs : List Char}

lemma Yields.read_bind {f : α → Calendar.Reader β} (h : Yields P (r cs))
    (hf : ∀ a, P a → ∀ rest, Yields Q (f a rest)) : Yields Q ((r >>= f) cs) :=
  Yields.bind fun x hx => hf x.1 (h x.1 x.2 hx) x.2

lemma Yields.read_then {f : α → Calendar.Reader β} (hf : ∀ a rest, Yields Q (f a rest)) :
    Yields Q ((r >>= f) cs) := .read_bind (.trivial _) fun a _ rest => hf a rest

lemma Yields.of_run'_bind {g : α → Except Calendar.ReadError β} {b : β} (h : Yields P (r cs))
    (hb : (r.run' cs >>= g) = .ok b) : ∃ a, P a ∧ g a = .ok b := by
  change ((fun x => x.1) <$> r cs >>= g) = .ok b at hb
  cases hread : r cs with
  | error e =>
    rw [hread] at hb
    cases hb
  | ok x =>
    rw [hread] at hb
    exact ⟨x.1, h x.1 x.2 hread, hb⟩

lemma digits_bound {width acc n : Nat} {first : Bool} {rest : List Char}
    (h : Calendar.Reader.digits width acc first cs = .ok (n, rest)) :
    ∃ k ≤ width, cs.length = k + rest.length ∧ n < (acc + 1) * 10 ^ k := by
  induction width generalizing acc first cs with
  | zero =>
    simp only [Calendar.Reader.digits] at h
    cases h
    exact ⟨0, Nat.le_refl _, by simp, by simp⟩
  | succ width ih =>
    -- The run ends here, if it does, with what has been read before.
    have hstop {e : Calendar.ReadError}
        (hsame : (if first then .error e else .ok (acc, cs)) = Except.ok (n, rest)) :
        ∃ k ≤ width + 1, cs.length = k + rest.length ∧ n < (acc + 1) * 10 ^ k := by
      split at hsame
      · cases hsame
      · cases hsame
        exact ⟨0, Nat.zero_le _, by simp, by simp⟩
    cases cs with
    | nil => exact hstop h
    | cons c cs =>
      simp only [Calendar.Reader.digits] at h
      cases hd : Text.digitValue? 10 c with
      | none =>
        rw [hd] at h
        exact hstop h
      | some d =>
        have hten : d < 10 := by
          have hfilter := Option.filter_eq_some_iff.mp hd
          exact of_decide_eq_true hfilter.2
        simp only [hd] at h
        split at h
        · obtain ⟨k, hk, hlength, hn⟩ := ih h
          refine ⟨k + 1, Nat.succ_le_succ hk, by rw [List.length_cons, hlength]; omega, ?_⟩
          calc n < (acc * 10 + d + 1) * 10 ^ k := hn
            _ ≤ ((acc + 1) * 10) * 10 ^ k := Nat.mul_le_mul_right _ (by omega)
            _ = (acc + 1) * 10 ^ (k + 1) := by rw [Nat.mul_assoc, Nat.pow_succ']
        · cases h

lemma yields_fraction (cs : List Char) : Yields (· < 1000000000) (Calendar.Reader.fraction cs) := by
  intro nano last h
  unfold Calendar.Reader.fraction at h
  split at h
  · rename_i rest
    cases hdigits : Calendar.Reader.digits 9 0 true rest with
    | error e =>
      rw [hdigits] at h
      cases h
    | ok x =>
      obtain ⟨k, hk, hlength, hn⟩ := digits_bound hdigits
      rw [hdigits] at h
      cases h
      have hcount : rest.length - x.2.length = k := by omega
      rw [hcount]
      calc x.1 * 10 ^ (9 - k) < (0 + 1) * 10 ^ k * 10 ^ (9 - k) :=
            Nat.mul_lt_mul_of_pos_right hn (Nat.pow_pos (by decide))
        _ = 1000000000 := by rw [Nat.mul_assoc, ← Nat.pow_add, Nat.add_sub_cancel' hk]
  · cases h
    decide

lemma yields_secondFraction (cs : List Char) :
    Yields (fun x => x.2 < 1000000000) (Calendar.Reader.secondFraction cs) := by
  refine .read_then fun _ _ => ?_
  refine .read_then fun _ _ => ?_
  refine .read_then fun _ _ => ?_
  refine .read_bind (yields_fraction _) fun n hn _ => ?_
  exact .read_then fun _ _ => .ok hn

lemma yields_orElse {P : α → Prop} {r : Calendar.Reader α} {default : α}
    (hr : ∀ cs, Yields P (r cs)) (hdefault : P default) (cs : List Char) :
    Yields P (Calendar.Reader.orElse r default cs) := by
  unfold Calendar.Reader.orElse
  split
  · rename_i x hx
    exact hx ▸ hr cs
  · exact .ok hdefault

lemma of_time? {hour minute second nano : Nat} {t : Time}
    (h : Calendar.time? hour minute second nano = .ok t) : (t.second, t.nano) =
      if second = 60 then (59, nano + 1000000000) else (second, nano) := by
  unfold Calendar.time? Time.ofParts? at h
  generalize (if second = 60 then (59, nano + 1000000000) else (second, nano)) = parts at h ⊢
  dsimp only at h
  split at h
  · rename_i heq
    split at heq
    · cases heq
      cases h
      rfl
    · cases heq
  · cases h

lemma endsMinute_of_time? {hour minute second nano : Nat} {t : Time} (hnano : nano < 1000000000)
    (h : Calendar.time? hour minute second nano = .ok t) : EndsMinute t := by
  intro hleap
  have hparts := of_time? h
  split at hparts
  · exact congrArg Prod.fst hparts
  · have hsame : t.nano = nano := congrArg Prod.snd hparts
    omega

/-- A leap second that is read from a text ends a minute. -/
theorem endsMinute_of_timeText {s : String} {t : Time} (h : Time.ofText s = .ok t) :
    EndsMinute t := by
  simp only [Time.ofText] at h
  refine Exists.elim (Yields.of_run'_bind
    (P := fun x : Nat × Nat × Nat × Nat => x.2.2.2 < 1000000000) ?_ h) ?_
  · refine .read_then fun _ _ => ?_
    refine .read_bind (yields_orElse yields_secondFraction (by decide) _) fun y hy _ => ?_
    refine .read_then fun _ _ => ?_
    exact .read_then fun _ _ => .ok hy
  · rintro x ⟨hnano, ht⟩
    exact endsMinute_of_time? hnano ht

end Time

/-! ### Moments -/

lemma yields_hoursMinutes (sign : Int) (cs : List Char) :
    Yields (· % 60 = 0) (Calendar.Reader.hoursMinutes sign cs) := by
  refine .bind fun _ _ => .bind fun _ _ => ?_
  dsimp only
  split
  · exact .error
  · refine .ok ?_
    rw [Int.natCast_mul, ← Int.mul_assoc]
    exact Int.mul_emod_left _ _

lemma yields_signedOffset (cs : List Char) :
    Yields (· % 60 = 0) (Calendar.Reader.signedOffset cs) := by
  unfold Calendar.Reader.signedOffset
  split
  · exact .error
  · split_ifs
    · exact .ok rfl
    · exact yields_hoursMinutes 1 _
    · exact yields_hoursMinutes (-1) _
    · exact .error

lemma yields_offset (cs : List Char) : Yields (· % 60 = 0) (Calendar.Reader.offset cs) := by
  unfold Calendar.Reader.offset
  split
  · split_ifs
    · exact .ok rfl
    · exact yields_signedOffset _
  · exact yields_signedOffset _

lemma endsMinute_toUtc? {dt utc : DateTime} {offset : Int} (hoffset : offset % 60 = 0)
    (h : dt.toUtc? offset = some utc) (hends : EndsMinute dt.time) : EndsMinute utc.time := by
  obtain ⟨date, -, rfl⟩ := Option.map_eq_some_iff.mp h
  intro hleap
  have hlast : dt.time.second = 59 := hends hleap
  change (((dt.time.seconds : Int) - offset) % 86400).toNat % 60 = 59
  unfold Time.seconds
  omega

lemma exists_of_parts {parts : Int × Nat × Nat} {x : Nat × Nat × Nat × Nat}
    {g : Date → Time → Except Calendar.ReadError α} {a : α}
    (h : (Calendar.date? parts >>= fun d =>
      Calendar.time? x.1 x.2.1 x.2.2.1 x.2.2.2 >>= fun t => g d t) = .ok a) :
    ∃ d t, Calendar.time? x.1 x.2.1 x.2.2.1 x.2.2.2 = .ok t ∧ g d t = .ok a := by
  cases hdate : Calendar.date? parts with
  | error e =>
    rw [hdate] at h
    cases h
  | ok d =>
    cases htime : Calendar.time? x.1 x.2.1 x.2.2.1 x.2.2.2 with
    | error e =>
      rw [hdate, htime] at h
      cases h
    | ok t =>
      rw [hdate, htime] at h
      exact ⟨d, t, rfl, h⟩

theorem endsMinute_of_dateTimeText {s : String} {dt : DateTime} (h : DateTime.ofText s = .ok dt) :
    EndsMinute dt.time := by
  simp only [DateTime.ofText] at h
  refine Exists.elim (Yields.of_run'_bind
    (P := fun x : (Int × Nat × Nat) × Nat × Nat × Nat × Nat => x.2.2.2.2 < 1000000000) ?_ h) ?_
  · refine .read_then fun _ _ => ?_
    refine .read_then fun _ _ => ?_
    refine .read_then fun _ _ => ?_
    refine .read_then fun _ _ => ?_
    refine .read_bind (yields_secondFraction _) fun y hy _ => ?_
    exact .read_then fun _ _ => .ok hy
  · rintro x ⟨hnano, hparts⟩
    obtain ⟨d, t, ht, hdt⟩ := exists_of_parts hparts
    cases hdt
    exact endsMinute_of_time? hnano ht

theorem endsMinute_of_momentText {s : String} {utc : DateTime}
    (h : DateTime.ofZonedText s = .ok utc) : EndsMinute utc.time := by
  simp only [DateTime.ofZonedText] at h
  refine Exists.elim (Yields.of_run'_bind
    (P := fun x : (Int × Nat × Nat) × (Nat × Nat × Nat × Nat) × Int =>
      x.2.1.2.2.2 < 1000000000 ∧ x.2.2 % 60 = 0) ?_ h) ?_
  · refine .read_then fun _ _ => ?_
    refine .read_then fun _ _ => ?_
    refine .read_then fun _ _ => ?_
    refine .read_bind (yields_secondFraction _) fun y hy _ => ?_
    refine .read_bind (yields_offset _) fun o ho _ => ?_
    refine .read_then fun _ _ => ?_
    exact .read_then fun _ _ => .ok ⟨hy, ho⟩
  · rintro x ⟨⟨hnano, hoffset⟩, hparts⟩
    obtain ⟨d, t, ht, hutc⟩ := exists_of_parts hparts
    have hends := endsMinute_of_time? hnano ht
    split at hutc
    · cases hutc
    · split at hutc
      · rename_i moment hmoment
        cases hutc
        exact endsMinute_toUtc? hoffset hmoment hends
      · cases hutc

/-! ### Decimals -/

section Decimal

variable {negative : Bool} {d : Decimal}

lemma unsigned_of_parts {coefficient scale : Nat}
    (h : Decimal.ofParts? negative coefficient scale = some d) : d.unsignedZero = d := by
  unfold Decimal.ofParts? at h
  split at h
  · cases h
    simp [Decimal.unsignedZero]
  · cases h

lemma unsigned_roundAt {p : Decimal.Progress} {c : Char}
    (h : Decimal.roundAt negative p c = some d) : d.unsignedZero = d := by
  obtain ⟨digit, -, h⟩ := Option.bind_eq_some_iff.mp h
  split_ifs at h <;> exact unsigned_of_parts h

lemma unsigned_readFrom {p : Decimal.Progress} {cs : List Char}
    (h : Decimal.readFrom negative p cs = some d) : d.unsignedZero = d := by
  fun_induction Decimal.readFrom negative p cs <;>
    first
    | exact unsigned_of_parts h
    | exact unsigned_roundAt h
    | cases h
    | rename_i ih; exact ih h

lemma unsigned_ofPlainText? {cs : List Char} (h : Decimal.ofPlainText? cs = some d) :
    d.unsignedZero = d := by
  unfold Decimal.ofPlainText? at h
  split at h <;> exact unsigned_readFrom h

lemma unsigned_ofScientificText? {cs : List Char} (h : Decimal.ofScientificText? cs = some d) :
    d.unsignedZero = d := by
  unfold Decimal.ofScientificText? at h
  dsimp only at h
  split at h
  · cases h
  · obtain ⟨base, -, h⟩ := Option.bind_eq_some_iff.mp h
    split at h
    · obtain ⟨n, -, h⟩ := Option.bind_eq_some_iff.mp h
      exact unsigned_of_parts h
    · obtain ⟨n, -, h⟩ := Option.bind_eq_some_iff.mp h
      unfold Decimal.scaleUp? at h
      split_ifs at h <;> exact unsigned_of_parts h

theorem unsigned_ofText? {s : String} (h : Decimal.ofText? s = some d) : d.unsignedZero = d := by
  rcases Option.or_eq_some_iff.mp h with h | ⟨-, h⟩
  · exact unsigned_ofPlainText? h
  · exact unsigned_ofScientificText? h

end Decimal

/-! ### Values and records -/

/-- Leap seconds end minutes, and a zero has no sign. -/
def IsTold : Value → Prop
  | .decimal d => d.unsignedZero = d
  | .time t => EndsMinute t
  | .dateTime dt => EndsMinute dt.time
  | .moment utc => EndsMinute utc.time
  | _ => True

section Scalar

variable {k : Value.Kind} {s : Document.Scalar} {v : Value}

lemma of_ofInteger {width : Nat} {build : Int → Value}
    (h : Value.ofInteger k width build s = .ok v) : ∃ i, build i = v := by
  unfold Value.ofInteger at h
  split at h
  · split at h
    · exact ⟨_, Except.ok.inj h⟩
    · cases h
  · cases h

lemma of_ofNumber {f : Binary.Format} {build : Binary.Number f → Value}
    (h : Value.ofNumber k f build s = .ok v) : ∃ x, build x = v := by
  unfold Value.ofNumber at h
  split at h
  · exact ⟨_, Except.ok.inj h⟩
  · exact ⟨_, Except.ok.inj h⟩
  · cases h

lemma of_ofReadable {ε : Type} {read : String → Except ε α} {message : ε → String}
    {build : α → Value} (h : Value.ofReadable k read message build s = .ok v) :
    ∃ t a, read t = .ok a ∧ build a = v := by
  unfold Value.ofReadable at h
  split at h
  · split at h
    · rename_i t _ a ha
      exact ⟨t, a, ha, Except.ok.inj h⟩
    · cases h
  · cases h

lemma of_ofDecimal (h : Value.ofDecimal s = .ok v) :
    ∃ d, .decimal d = v ∧ d.unsignedZero = d := by
  unfold Value.ofDecimal at h
  dsimp only at h
  split at h
  · rename_i d hd
    refine ⟨d, Except.ok.inj h, ?_⟩
    split at hd
    · exact unsigned_of_parts (Option.some.inj hd)
    · exact unsigned_ofText? (Option.some.inj hd)
    · exact unsigned_ofText? (Option.some.inj hd)
    · cases hd
  · cases h
  · cases h

lemma told_ofScalar (h : Value.ofScalar k s = .ok v) : IsTold v := by
  cases k with
  | time =>
    obtain ⟨_, t, ht, rfl⟩ := of_ofReadable h
    exact endsMinute_of_timeText ht
  | dateTime =>
    obtain ⟨_, dt, hdt, rfl⟩ := of_ofReadable h
    exact endsMinute_of_dateTimeText hdt
  | moment =>
    obtain ⟨_, utc, hutc, rfl⟩ := of_ofReadable h
    exact endsMinute_of_momentText hutc
  | date | uuid =>
    obtain ⟨_, _, _, rfl⟩ := of_ofReadable h
    exact True.intro
  | int8 | int16 | int32 | int64 =>
    obtain ⟨_, rfl⟩ := of_ofInteger h
    exact True.intro
  | float32 | float64 =>
    obtain ⟨_, rfl⟩ := of_ofNumber h
    exact True.intro
  | decimal =>
    obtain ⟨_, rfl, hd⟩ := of_ofDecimal h
    exact hd
  | null =>
    simp only [Value.ofScalar] at h
    split at h <;> cases h
    exact True.intro
  | bool | string =>
    simp only [Value.ofScalar] at h
    split at h <;> cases h
    exact True.intro
  | bytes => cases h
  | json =>
    simp only [Value.ofScalar] at h
    split at h <;> cases h <;> exact True.intro

end Scalar

lemma Yields.settle {P : α → Prop} {cur : Cursor} {r : Except Document.Mismatch α}
    (h : ∀ a, r = .ok a → P a) : Yields P (Value.settle cur r) := by
  cases r with
  | error m => exact .error
  | ok a => exact .ok (h a rfl)

lemma yields_payload (k : Value.Kind) (depth : Depth) (cur : Cursor) :
    Yields IsTold (Value.readPayload k depth cur) := by
  unfold Value.readPayload
  split
  · exact .bind fun _ _ => .ok True.intro
  · refine .bind fun x _ => ?_
    dsimp only
    split
    · exact .settle fun _ hv => told_ofScalar hv
    · exact .bind fun _ _ => .ok True.intro
    · exact .bind fun _ _ => .error
    · exact .bind fun _ _ => .error
    · exact .error

lemma yields_value (depth : Depth) (cur : Cursor) :
    Yields IsTold (Value.read depth cur) := by
  unfold Value.read
  dsimp only
  split
  · exact .error
  · split
    · refine .bind fun x _ => ?_
      split
      · exact .ok True.intro
      · exact .error
    · split
      · refine .bind fun _ _ => .bind fun _ _ => .bind fun _ _ => .bind fun x hx => ?_
        split
        · exact .error
        · split
          · exact .ok (yields_payload _ _ _ x.1 x.2 hx)
          · exact .error
      · exact .error

/-- Whatever text a record is read from, its values are told by their own. -/
theorem told_of_ofText {s : String} {r : Record} (h : Record.ofText s = .ok r) :
    ∀ v ∈ r.fields, IsTold v := by
  obtain ⟨last, hread, -⟩ := readWith_eq_ok.mp h
  obtain ⟨mid, hmid, -⟩ := outcome_eq_some.mp hread
  have hfields : Yields (fun r : Record => ∀ v ∈ r.fields, IsTold v)
      (Record.read Json.Depth.limit (Cursor.start s)) := by
    refine .bind fun x hx => .ok ?_
    exact yields_sequence yields_value _ _ x.1 x.2 hx
  exact hfields r mid hmid

end BatchInsert.Proofs
