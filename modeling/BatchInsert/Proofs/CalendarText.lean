import BatchInsert.Calendar.Reader
import BatchInsert.Proofs.Numerals
import Mathlib.Tactic.SplitIfs

/-!
# Dates and times as texts

Every part of a date or a time is a numeral of a fixed width, or ends at a mark, so that the parts
are read one after the other. What a text does not tell is a leap second within a minute: it is
written, and read again, as the second after it.
-/

namespace BatchInsert.Proofs

open Calendar (Date Time DateTime)
open Text (decimalChars isDigit padZeros)

variable {α β : Type}

/-! ### Parts -/

lemma run_bind {r : Calendar.Reader α} {f : α → Calendar.Reader β} {cs rest : List Char} {a : α}
    (h : r cs = .ok (a, rest)) : (r >>= f) cs = f a rest := by
  change (r cs >>= fun x => f x.1 x.2) = f a rest
  rw [h]
  rfl

lemma run'_of_ok {r : Calendar.Reader α} {cs rest : List Char} {a : α}
    (h : r cs = .ok (a, rest)) : r.run' cs = .ok a := by
  change (fun x => x.1) <$> r cs = .ok a
  rw [h]
  rfl

lemma isBlank_of_isDigit {c : Char} (hc : isDigit c = true) : Text.isBlank c = false := by
  have hrange : 48 ≤ c.toNat ∧ c.toNat ≤ 57 := by
    simp only [isDigit, Bool.and_eq_true, decide_eq_true_eq] at hc
    exact ⟨hc.1, hc.2⟩
  rw [Bool.eq_false_iff]
  intro hblank
  simp only [Text.isBlank, Bool.or_eq_true, Bool.and_eq_true, decide_eq_true_eq, beq_iff_eq]
    at hblank
  omega

lemma blanks_of_head? {cs : List Char} (h : ∀ c, cs.head? = some c → Text.isBlank c = false) :
    Calendar.Reader.blanks cs = .ok ((), cs) := by
  cases cs with
  | nil => rfl
  | cons c cs =>
    rw [Calendar.Reader.blanks, Text.trimStart, List.dropWhile_cons_of_neg (by simp [h c rfl])]

lemma mark_cons (c : Char) (rest : List Char) :
    Calendar.Reader.mark c (c :: rest) = .ok ((), rest) := by
  simp [Calendar.Reader.mark]

lemma digits_append {width acc n : Nat} {first : Bool} {ds rest : List Char}
    (hvalue : Text.digitsValue? 10 acc ds = some n) (hn : n < 2 ^ 63)
    (hdigits : ∀ c ∈ ds, isDigit c = true) (hfirst : first = true → ds ≠ [])
    (hwidth : ds.length ≤ width)
    (hstop : ds.length = width ∨ ∀ c, rest.head? = some c → isDigit c = false) :
    Calendar.Reader.digits width acc first (ds ++ rest) = .ok (n, rest) := by
  induction ds generalizing width acc first with
  | nil =>
    cases hvalue
    have hnot : first = false := by simpa using hfirst
    cases width with
    | zero => simp [Calendar.Reader.digits]
    | succ width =>
      cases rest with
      | nil => simp [Calendar.Reader.digits, hnot]
      | cons c cs =>
        have hnone : Text.digitValue? 10 c = none := by
          cases hd : Text.digitValue? 10 c with
          | none => rfl
          | some d =>
            have hc := hstop.resolve_left (by simp) c rfl
            rw [isDigit_of_digitValue? hd] at hc
            cases hc
        simp [Calendar.Reader.digits, hnone, hnot]
  | cons c ds ih =>
    obtain ⟨hc, hds⟩ := List.forall_mem_cons.mp hdigits
    obtain ⟨d, hd, hrest⟩ := Option.bind_eq_some_iff.mp hvalue
    obtain ⟨width, rfl⟩ : ∃ w, width = w + 1 :=
      ⟨width - 1, by rw [List.length_cons] at hwidth; omega⟩
    have hfits := Nat.lt_of_le_of_lt (le_of_digitsValue? (by decide) hrest) hn
    rw [List.length_cons, Nat.add_le_add_iff_right] at hwidth
    rw [List.length_cons, Nat.add_right_cancel_iff] at hstop
    simp only [List.cons_append, Calendar.Reader.digits, hd, hfits, if_true]
    exact ih hrest hds (by simp) hwidth hstop

/-- Two digits. -/
def twoChars (n : Nat) : List Char := padZeros 2 (decimalChars n)

lemma twoChars_spec {n : Nat} (hn : n < 100) :
    (twoChars n).length = 2 ∧ IsNumeral n (twoChars n) :=
  ⟨length_padZeros (positional_decimal.length_write_le (by decide) hn),
    (isNumeral_decimalChars n).padZeros 2⟩

lemma blanks_digits {ds : List Char} (hds : ds ≠ []) (hdigits : ∀ c ∈ ds, isDigit c = true)
    (rest : List Char) : Calendar.Reader.blanks (ds ++ rest) = .ok ((), ds ++ rest) := by
  obtain ⟨c, cs, rfl⟩ := List.exists_cons_of_ne_nil hds
  refine blanks_of_head? ?_
  rintro _ ⟨⟩
  exact isBlank_of_isDigit (hdigits c List.mem_cons_self)

lemma pair_twoChars {low high n : Nat} (hlow : low ≤ n) (hhigh : n ≤ high) (hn : n < 100)
    (rest : List Char) : Calendar.Reader.pair low high (twoChars n ++ rest) = .ok (n, rest) := by
  obtain ⟨hlength, hnumeral⟩ := twoChars_spec hn
  have hnonempty : twoChars n ≠ [] := by
    rw [← List.length_pos_iff, hlength]
    decide
  rw [Calendar.Reader.pair, run_bind (blanks_digits hnonempty hnumeral.forall_isDigit rest),
    run_bind (digits_append hnumeral.value_eq (by omega) hnumeral.forall_isDigit
      (fun _ => hnonempty) (Nat.le_of_eq hlength) (.inl hlength))]
  simp only [hlow, hhigh, decide_true, Bool.and_self, if_true]
  rfl

/-! ### Dates -/

/-- The numeral of a year. -/
def yearChars (n : Nat) : List Char := padZeros 4 (decimalChars n)

lemma yearChars_ne_nil (n : Nat) : yearChars n ≠ [] := by
  simp [yearChars, padZeros, Text.decimalChars_ne_nil]

lemma digits_yearChars {width n : Nat} (hn : n < 2 ^ 63) (hwidth : (yearChars n).length ≤ width)
    (rest : List Char) : Calendar.Reader.digits width 0 true (yearChars n ++ '-' :: rest) =
      .ok (n, '-' :: rest) := by
  have hnumeral := (isNumeral_decimalChars n).padZeros 4
  refine digits_append hnumeral.value_eq hn hnumeral.forall_isDigit
    (fun _ => yearChars_ne_nil n) hwidth (.inr ?_)
  rintro _ ⟨⟩
  decide

/-- The number of a year, if it fits 32 bits. -/
def boundedYear (n : Int) : Calendar.Reader Int :=
  if -2147483648 ≤ n && n ≤ 2147483647 then pure n else throw .outOfRange

/-- A year, `cs` being the text from its sign on. -/
def yearFrom (cs : List Char) : Calendar.Reader Int :=
  match cs with
  | '-' :: rest => do
    set rest
    let n ← Calendar.Reader.digits rest.length 0 true
    boundedYear (-(n : Int))
  | '+' :: rest => do
    set rest
    let n ← Calendar.Reader.digits rest.length 0 true
    boundedYear n
  | _ => do
    let n ← Calendar.Reader.digits 4 0 true
    boundedYear n

lemma year_eq :
    Calendar.Reader.year = (Calendar.Reader.blanks >>= fun _ => get >>= yearFrom) := by
  unfold Calendar.Reader.year yearFrom boundedYear
  congr

lemma yearFrom_of_isDigit {c : Char} (hc : isDigit c = true) (cs : List Char) :
    yearFrom (c :: cs) = (Calendar.Reader.digits 4 0 true >>= fun n => boundedYear n) := by
  unfold yearFrom
  split
  case h_1 heq => cases heq; cases hc
  case h_2 heq => cases heq; cases hc
  case h_3 => rfl

lemma yearFrom_minus (rest cs : List Char) :
    yearFrom ('-' :: rest) cs =
      (Calendar.Reader.digits rest.length 0 true >>= fun n => boundedYear (-(n : Int))) rest := rfl

lemma yearFrom_plus (rest cs : List Char) :
    yearFrom ('+' :: rest) cs =
      (Calendar.Reader.digits rest.length 0 true >>= fun n => boundedYear n) rest := rfl

lemma boundedYear_of_range {y : Int} (hy : -262143 ≤ y ∧ y ≤ 262142) (cs : List Char) :
    boundedYear y cs = .ok (y, cs) := by
  have hrange : -2147483648 ≤ y ∧ y ≤ 2147483647 := by omega
  simp only [boundedYear, hrange.1, hrange.2, decide_true, Bool.and_self, if_true]
  rfl

lemma year_of_yearFrom {cs rest : List Char} {y : Int}
    (hblank : ∀ c, cs.head? = some c → Text.isBlank c = false)
    (h : yearFrom cs cs = .ok (y, rest)) : Calendar.Reader.year cs = .ok (y, rest) := by
  rw [year_eq, run_bind (blanks_of_head? hblank)]
  exact h

lemma toList_paddedDecimal (width n : Nat) :
    (Text.paddedDecimal width n).toList = padZeros width (decimalChars n) := String.toList_ofList

lemma toList_yearText (y : Int) : (Date.yearText y).toList =
    if 0 ≤ y ∧ y ≤ 9999 then yearChars y.natAbs
    else (if y < 0 then '-' else '+') :: yearChars y.natAbs := by
  unfold Date.yearText
  split_ifs <;> simp [toList_paddedDecimal, yearChars]

lemma year_yearText {y : Int} (hy : -262143 ≤ y ∧ y ≤ 262142) (rest : List Char) :
    Calendar.Reader.year ((Date.yearText y).toList ++ '-' :: rest) = .ok (y, '-' :: rest) := by
  have hnat : y.natAbs < 2 ^ 63 := by omega
  have hsigned := digits_yearChars hnat
    (show (yearChars y.natAbs).length ≤ (yearChars y.natAbs ++ '-' :: rest).length by simp) rest
  rw [toList_yearText]
  split_ifs with hrange hneg
  · have hwidth : (yearChars y.natAbs).length ≤ 4 := Nat.le_of_eq <|
      length_padZeros (positional_decimal.length_write_le (by decide) (by omega))
    have hdigits := digits_yearChars hnat hwidth rest
    have hnumeral := (isNumeral_decimalChars y.natAbs).padZeros 4
    obtain ⟨c, cs, hcs⟩ := List.exists_cons_of_ne_nil (yearChars_ne_nil y.natAbs)
    have hc : isDigit c = true := hnumeral.forall_isDigit c (by rw [← yearChars, hcs]; simp)
    rw [hcs, List.cons_append] at hdigits ⊢
    refine year_of_yearFrom (by rintro _ ⟨⟩; exact isBlank_of_isDigit hc) ?_
    rw [yearFrom_of_isDigit hc, run_bind hdigits, Int.natAbs_of_nonneg hrange.1]
    exact boundedYear_of_range hy _
  · refine year_of_yearFrom (by rintro _ ⟨⟩; decide) ?_
    rw [List.cons_append, yearFrom_minus, run_bind hsigned,
      Int.ofNat_natAbs_of_nonpos (Int.le_of_lt hneg), Int.neg_neg]
    exact boundedYear_of_range hy _
  · refine year_of_yearFrom (by rintro _ ⟨⟩; decide) ?_
    rw [List.cons_append, yearFrom_plus, run_bind hsigned,
      Int.natAbs_of_nonneg (Int.not_lt.mp hneg)]
    exact boundedYear_of_range hy _

lemma dateParts_text (d : Date) (rest : List Char) :
    Calendar.Reader.dateParts (d.text.toList ++ rest) = .ok ((d.year, d.month, d.day), rest) := by
  have htext : d.text.toList ++ rest = (Date.yearText d.year).toList ++
      '-' :: (twoChars d.month ++ '-' :: (twoChars d.day ++ rest)) := by
    simp [Date.text, toList_paddedDecimal, twoChars]
  have hmonth := d.month_range
  have hday : 1 ≤ d.day ∧ d.day ≤ 31 := by
    have hrange := d.day_range
    unfold Calendar.daysInMonth at hrange
    split_ifs at hrange <;> omega
  have hblanks (cs : List Char) : Calendar.Reader.blanks ('-' :: cs) = .ok ((), '-' :: cs) :=
    blanks_of_head? (by rintro _ ⟨⟩; decide)
  rw [htext, Calendar.Reader.dateParts, run_bind (year_yearText d.year_range _),
    run_bind (hblanks _), run_bind (mark_cons '-' _),
    run_bind (pair_twoChars hmonth.1 hmonth.2 (by omega) _), run_bind (hblanks _),
    run_bind (mark_cons '-' _), run_bind (pair_twoChars hday.1 hday.2 (by omega) _)]
  rfl

lemma date?_self (d : Date) : Calendar.date? (d.year, d.month, d.day) = .ok d := by
  simp only [Calendar.date?, d.ofParts?_self]

/-- A date is read back from its text, whatever its year. -/
theorem date_ofText (d : Date) : Date.ofText d.text = .ok d := by
  have hparts := dateParts_text d []
  rw [List.append_nil] at hparts
  simp only [Date.ofText]
  rw [run'_of_ok (a := (d.year, d.month, d.day))]
  · exact date?_self d
  · rw [run_bind hparts]
    rfl

/-! ### Times -/

/-- What may follow a time: no digit and no point. -/
def EndsTime (rest : List Char) : Prop :=
  ∀ c, rest.head? = some c → isDigit c = false ∧ c ≠ '.' ∧ Text.isBlank c = false

lemma endsTime_nil : EndsTime [] := by
  rintro c ⟨⟩

lemma fraction_point {k m : Nat} (hk : 0 < k ∧ k ≤ 9) (hm : m < 10 ^ k) {rest : List Char}
    (hrest : EndsTime rest) :
    Calendar.Reader.fraction ('.' :: (padZeros k (decimalChars m) ++ rest)) =
      .ok (m * 10 ^ (9 - k), rest) := by
  have hlength : (padZeros k (decimalChars m)).length = k :=
    length_padZeros (positional_decimal.length_write_le hk.1 hm)
  have hnumeral := (isNumeral_decimalChars m).padZeros k
  have hsmall : m < 2 ^ 63 := calc
    m < 10 ^ k := hm
    _ ≤ 10 ^ 9 := Nat.pow_le_pow_right (by decide) hk.2
    _ < 2 ^ 63 := by decide
  have hread : Calendar.Reader.digits 9 0 true (padZeros k (decimalChars m) ++ rest) =
      .ok (m, rest) :=
    digits_append hnumeral.value_eq hsmall hnumeral.forall_isDigit
      (fun _ => by simp [padZeros, Text.decimalChars_ne_nil])
      (Nat.le_trans (Nat.le_of_eq hlength) hk.2) (.inr fun c hc => (hrest c hc).1)
  have hdrop : rest.dropWhile isDigit = rest := by
    cases rest with
    | nil => rfl
    | cons c cs => exact List.dropWhile_cons_of_neg (by simp [(hrest c rfl).1])
  have hk' : (padZeros k (decimalChars m) ++ rest).length - rest.length = k := by
    rw [List.length_append, hlength, Nat.add_sub_cancel]
  simp only [Calendar.Reader.fraction, hread, hdrop, hk']

lemma fraction_text {nano : Nat} (hnano : nano < 1000000000) {rest : List Char}
    (hrest : EndsTime rest) :
    Calendar.Reader.fraction ((Time.fractionText nano).toList ++ rest) = .ok (nano, rest) := by
  have hpoint (k m : Nat) :
      ("." ++ Text.paddedDecimal k m).toList = '.' :: padZeros k (decimalChars m) := by
    rw [String.toList_append, toList_paddedDecimal]
    rfl
  unfold Time.fractionText
  split_ifs with hzero hmillis hmicros
  · subst hzero
    change Calendar.Reader.fraction rest = _
    unfold Calendar.Reader.fraction
    split
    case h_1 => exact absurd rfl (hrest '.' rfl).2.1
    case h_2 => rfl
  · rw [hpoint, List.cons_append, fraction_point (by decide) (by omega) hrest]
    rw [Nat.div_mul_cancel (Nat.dvd_of_mod_eq_zero hmillis)]
  · rw [hpoint, List.cons_append, fraction_point (by decide) (by omega) hrest]
    rw [Nat.div_mul_cancel (Nat.dvd_of_mod_eq_zero hmicros)]
  · rw [hpoint, List.cons_append, fraction_point (by decide) (by omega) hrest]
    rw [Nat.sub_self, Nat.pow_zero, Nat.mul_one]

lemma hourMinute_text (t : Time) (rest : List Char) :
    Calendar.Reader.hourMinute (twoChars t.hour ++ ':' :: (twoChars t.minute ++ rest)) =
      .ok ((t.hour, t.minute), rest) := by
  have hhour := t.hour_lt
  have hminute := t.minute_lt
  rw [Calendar.Reader.hourMinute,
    run_bind (pair_twoChars (Nat.zero_le _) (by omega) (by omega) _),
    run_bind (blanks_of_head? (by rintro _ ⟨⟩; decide)), run_bind (mark_cons ':' _),
    run_bind (pair_twoChars (Nat.zero_le _) (by omega) (by omega) _)]
  rfl

lemma secondFraction_text {second nano : Nat} (hsecond : second ≤ 60)
    (hnano : nano < 1000000000) {rest : List Char} (hrest : EndsTime rest) :
    Calendar.Reader.secondFraction
        (':' :: (twoChars second ++ ((Time.fractionText nano).toList ++ rest))) =
      .ok ((second, nano), rest) := by
  have hblank : Calendar.Reader.blanks rest = .ok ((), rest) :=
    blanks_of_head? fun c hc => (hrest c hc).2.2
  rw [Calendar.Reader.secondFraction, run_bind (blanks_of_head? (by rintro _ ⟨⟩; decide)),
    run_bind (mark_cons ':' _), run_bind (pair_twoChars (Nat.zero_le _) hsecond (by omega) _),
    run_bind (fraction_text hnano hrest), run_bind hblank]
  rfl

/-- The second and the nanoseconds that the text of a time shows. -/
def shownSecond (t : Time) : Nat × Nat :=
  if 1000000000 ≤ t.nano then (t.second + 1, t.nano - 1000000000) else (t.second, t.nano)

/-- The time that is read from the text of `t`: a leap second is known by its second 60, and one
at any other second of a minute is read as the second after it. -/
def timeAsRead (t : Time) : Time :=
  if h : 1000000000 ≤ t.nano ∧ t.second < 59 then
    ⟨t.hour, t.minute, t.second + 1, t.nano - 1000000000, t.hour_lt, t.minute_lt, by omega,
      Nat.lt_of_le_of_lt (Nat.sub_le _ _) t.nano_lt⟩
  else t

lemma toList_timeText (t : Time) :
    t.text.toList = twoChars t.hour ++ ':' :: (twoChars t.minute ++ ':' ::
      (twoChars (shownSecond t).1 ++ (Time.fractionText (shownSecond t).2).toList)) := by
  by_cases hleap : 1000000000 ≤ t.nano <;>
    simp [Time.text, shownSecond, hleap, toList_paddedDecimal, twoChars]

lemma shownSecond_spec (t : Time) :
    (shownSecond t).1 ≤ 60 ∧ (shownSecond t).2 < 1000000000 := by
  have hsecond := t.second_lt
  have hnano := t.nano_lt
  unfold shownSecond
  split_ifs with hleap
  · exact ⟨hsecond, by omega⟩
  · exact ⟨by omega, Nat.not_le.mp hleap⟩

lemma time?_of_parts {hour minute second nano : Nat} {t : Time}
    (h : (if second = 60 then (59, nano + 1000000000) else (second, nano)) = (t.second, t.nano))
    (hhour : hour = t.hour) (hminute : minute = t.minute) :
    Calendar.time? hour minute second nano = .ok t := by
  simp only [Calendar.time?, h, hhour, hminute, t.ofParts?_self]

lemma time?_shown (t : Time) :
    Calendar.time? t.hour t.minute (shownSecond t).1 (shownSecond t).2 = .ok (timeAsRead t) := by
  have hsecond := t.second_lt
  unfold shownSecond timeAsRead
  by_cases hleap : 1000000000 ≤ t.nano
  · by_cases hinside : t.second < 59
    · simp only [hleap, hinside, and_self, dif_pos, if_true]
      exact time?_of_parts (if_neg (by omega)) rfl rfl
    · have hlast : t.second = 59 := by omega
      simp only [hleap, hinside, and_false, dif_neg, if_true, not_false_eq_true]
      refine time?_of_parts ?_ rfl rfl
      rw [hlast, if_pos rfl, Nat.sub_add_cancel hleap]
  · simp only [hleap, false_and, dif_neg, if_false, not_false_eq_true]
    exact time?_of_parts (if_neg (by omega)) rfl rfl

/-- A leap second is the last second of a minute. -/
def EndsMinute (t : Time) : Prop := 1000000000 ≤ t.nano → t.second = 59

lemma timeAsRead_eq_self_iff {t : Time} : timeAsRead t = t ↔ EndsMinute t := by
  unfold timeAsRead
  split
  · rename_i hinside
    refine ⟨fun h => ?_, fun h => absurd (h hinside.1) (by omega)⟩
    have hnext : t.second + 1 = t.second := congrArg Time.second h
    omega
  · rename_i hlast
    have hsecond := t.second_lt
    exact ⟨fun _ hleap => by omega, fun _ => rfl⟩

/-- A time is read back from its text. -/
theorem time_ofText (t : Time) : Time.ofText t.text = .ok (timeAsRead t) := by
  obtain ⟨hsecond, hnano⟩ := shownSecond_spec t
  have hseconds : Calendar.Reader.orElse Calendar.Reader.secondFraction (0, 0) (':' ::
      (twoChars (shownSecond t).1 ++ ((Time.fractionText (shownSecond t).2).toList ++ []))) =
        .ok (shownSecond t, []) := by
    rw [Calendar.Reader.orElse, secondFraction_text hsecond hnano endsTime_nil]
  rw [List.append_nil] at hseconds
  simp only [Time.ofText, toList_timeText]
  rw [run'_of_ok (a := (t.hour, t.minute, shownSecond t))]
  · exact time?_shown t
  · rw [run_bind (hourMinute_text t _), run_bind hseconds]
    rfl

example : timeAsRead ⟨12, 30, 59, 1500000000, by decide, by decide, by decide, by decide⟩ =
    ⟨12, 30, 59, 1500000000, by decide, by decide, by decide, by decide⟩ := rfl

example : timeAsRead ⟨12, 30, 30, 1500000000, by decide, by decide, by decide, by decide⟩ =
    ⟨12, 30, 31, 500000000, by decide, by decide, by decide, by decide⟩ := rfl

/-! ### Moments -/

/-- The date and time that are read from the text of `dt`. -/
def dateTimeAsRead (dt : DateTime) : DateTime := ⟨dt.date, timeAsRead dt.time⟩

/-- A date and a time apart by a `T` are read back from their text. -/
theorem dateTime_ofText (dt : DateTime) :
    DateTime.ofText (dt.text "T") = .ok (dateTimeAsRead dt) := by
  obtain ⟨hsecond, hnano⟩ := shownSecond_spec dt.time
  have hseconds := secondFraction_text hsecond hnano endsTime_nil
  rw [List.append_nil] at hseconds
  have htext : (dt.text "T").toList = dt.date.text.toList ++ 'T' :: dt.time.text.toList := by
    simp [DateTime.text]
  simp only [DateTime.ofText, htext, toList_timeText]
  rw [run'_of_ok (a := ((dt.date.year, dt.date.month, dt.date.day), dt.time.hour, dt.time.minute,
    shownSecond dt.time))]
  · change (Calendar.date? _ >>= fun d => Calendar.time? _ _ _ _ >>= fun t => _) = _
    rw [date?_self, time?_shown]
    rfl
  · rw [run_bind (dateParts_text dt.date _),
      run_bind (blanks_of_head? (by rintro _ ⟨⟩; decide)), run_bind (mark_cons 'T' _),
      run_bind (hourMinute_text dt.time _), run_bind hseconds]
    rfl

lemma ofSeconds_seconds (t : Time) : Time.ofSeconds t.seconds t.nano t.nano_lt = t := by
  obtain ⟨hour, minute, second, nano, hhour, hminute, hsecond, hnano⟩ := t
  simp only [Time.ofSeconds, Time.seconds, Time.mk.injEq, and_true]
  refine ⟨?_, ?_, ?_⟩ <;> omega

lemma toUtc?_zero (dt : DateTime) : dt.toUtc? 0 = some dt := by
  have hday : dt.time.seconds < 86400 := by
    have hhour := dt.time.hour_lt
    have hminute := dt.time.minute_lt
    have hsecond := dt.time.second_lt
    unfold Time.seconds
    omega
  have hmod : ((dt.time.seconds : Int) % 86400).toNat = dt.time.seconds := by omega
  have hlow : ¬(dt.time.seconds : Int) < 0 := by omega
  have hhigh : ¬(86400 : Int) ≤ dt.time.seconds := by omega
  simp only [DateTime.toUtc?, Int.sub_zero, hmod, hlow, hhigh, if_false, ofSeconds_seconds,
    Option.map_some]

/-- A moment in UTC is read back from its text. -/
theorem moment_ofZonedText (utc : DateTime) :
    DateTime.ofZonedText (utc.text "T" ++ "Z") = .ok (dateTimeAsRead utc) := by
  obtain ⟨hsecond, hnano⟩ := shownSecond_spec utc.time
  have hz : EndsTime ['Z'] := by
    rintro c ⟨⟩
    decide
  have htext : (utc.text "T" ++ "Z").toList =
      utc.date.text.toList ++ 'T' :: (utc.time.text.toList ++ ['Z']) := by
    simp [DateTime.text]
  simp only [DateTime.ofZonedText, htext, toList_timeText, List.append_assoc, List.cons_append]
  rw [run'_of_ok (a := ((utc.date.year, utc.date.month, utc.date.day),
    (utc.time.hour, utc.time.minute, shownSecond utc.time), 0))]
  · have hutc := toUtc?_zero (dateTimeAsRead utc)
    rw [dateTimeAsRead] at hutc ⊢
    simp only [date?_self, time?_shown, Bind.bind, Except.bind, hutc]
    rfl
  · rw [run_bind (dateParts_text utc.date _)]
    refine (run_bind (a := ()) rfl).trans ?_
    rw [run_bind (hourMinute_text utc.time _), run_bind (secondFraction_text hsecond hnano hz)]
    rfl

end BatchInsert.Proofs
