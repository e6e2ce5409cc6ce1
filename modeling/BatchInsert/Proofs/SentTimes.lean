import BatchInsert.Mysql.Datum
import Mathlib.Tactic.Lemma

/-!
# Dates and times as MySQL is sent them

A date is sent with 16 bits for its year, so that the year is kept modulo 65536, and a time with the
whole microseconds of its fraction. The fraction of a leap second is a second and more, and is sent
as that: the time that is sent then is none of a clock, though it is as long after midnight as it
should be.
-/

namespace BatchInsert.Proofs

open Calendar (Date DateTime Time daysInMonth)
open Mysql (Datum)
open Sql (Param)

/-! ### What a parameter carries -/

/-- The value of a parameter, under whatever type it is bound. -/
def heldValue? : Param → Option Value
  | .null _ => none
  | .typed _ v => some v.value
  | .object v => some v

/-- The day of a value that is one or lies on one. -/
def dateOf? : Value → Option Date
  | .date d => some d
  | .dateTime dt | .moment dt => some dt.date
  | _ => none

/-- The time of day of a value that has one. -/
def timeOf? : Value → Option Time
  | .time t => some t
  | .dateTime dt | .moment dt => some dt.time
  | _ => none

/-- Nanoseconds since midnight, a leap second counted on. -/
def nanosOfDay (t : Time) : Nat := t.seconds * 1000000000 + t.nano

lemma ofParam_of_heldValue? {p : Param} {v : Value} (h : heldValue? p = some v) :
    Datum.ofParam p = Datum.ofValue v := by
  cases p with
  | null tag => cases h
  | typed tag tv =>
    obtain rfl : tv.value = v := Option.some.inj h
    rfl
  | object u =>
    obtain rfl : u = v := Option.some.inj h
    rfl

/-! ### What is sent -/

/-- The day in a datum. -/
structure SentDate where
  year : Nat
  month : Nat
  day : Nat
deriving DecidableEq

def sentDate? : Datum → Option SentDate
  | .date year month day _ _ _ _ => some ⟨year.toNat, month.toNat, day.toNat⟩
  | _ => none

/-- The time of day in a datum. -/
structure SentTime where
  hour : Nat
  minute : Nat
  second : Nat
  micros : Nat
deriving DecidableEq

/-- A span of time is a time of day if it goes forwards and has no days. -/
def sentTime? : Datum → Option SentTime
  | .date _ _ _ hour minute second micros =>
    some ⟨hour.toNat, minute.toNat, second.toNat, micros.toNat⟩
  | .time negative days hours minutes seconds micros =>
    if negative = false ∧ days = 0 then
      some ⟨hours.toNat, minutes.toNat, seconds.toNat, micros.toNat⟩
    else none
  | _ => none

namespace SentTime

def microsOfDay (t : SentTime) : Nat :=
  ((t.hour * 60 + t.minute) * 60 + t.second) * 1000000 + t.micros

/-- A time that a clock can show. -/
structure OfClock (t : SentTime) : Prop where
  hour : t.hour < 24
  minute : t.minute < 60
  second : t.second < 60
  micros : t.micros < 1000000

end SentTime

/-! ### Narrowing -/

lemma toNat_ofInt (i : Int) : ((UInt16.ofInt i).toNat : Int) = i % 65536 := by
  unfold UInt16.ofInt
  rw [UInt16.toNat_ofNat']
  omega

lemma day_le (d : Date) : d.day ≤ 31 := by
  have hday := d.day_range.2
  have hmonth : daysInMonth d.year d.month ≤ 31 := by
    unfold daysInMonth
    split
    · split <;> omega
    · split <;> omega
  omega

lemma toNat_byte {n : Nat} (h : n < 60) : (UInt8.ofNat n).toNat = n :=
  UInt8.toNat_ofNat_of_lt' (Nat.lt_trans h (by decide))

lemma toNat_micros (t : Time) : (UInt32.ofNat (t.nano / 1000)).toNat = t.nano / 1000 := by
  apply UInt32.toNat_ofNat_of_lt'
  have hnano := t.nano_lt
  have hsize : UInt32.size = 4294967296 := rfl
  omega

/-! ### Dates -/

/-- The day that is sent for a date. -/
def SentDate.of (d : Date) : SentDate := ⟨(d.year % 65536).toNat, d.month, d.day⟩

lemma sentDate?_fields (d : Date) (hour minute second : UInt8) (micros : UInt32) :
    sentDate? (.date (.ofInt d.year) (.ofNat d.month) (.ofNat d.day) hour minute second micros) =
      some (.of d) := by
  have hyear : (UInt16.ofInt d.year).toNat = (d.year % 65536).toNat := by
    have := toNat_ofInt d.year
    omega
  have hmonth := d.month_range.2
  have hday := day_le d
  simp only [sentDate?, SentDate.of, hyear, toNat_byte (n := d.month) (by omega),
    toNat_byte (n := d.day) (by omega)]

lemma sentDate?_ofValue {v : Value} {d : Date} (h : dateOf? v = some d) :
    sentDate? (Datum.ofValue v) = some (.of d) := by
  cases v with
  | date d' =>
    obtain rfl : d' = d := Option.some.inj h
    exact sentDate?_fields ..
  | dateTime dt | moment dt =>
    obtain rfl : dt.date = d := Option.some.inj h
    exact sentDate?_fields ..
  | _ => cases h

/-- The month and the day are sent as they are, and the year modulo 65536. So a date is sent with its
own year exactly if that has 16 bits, and two dates are sent as the same day exactly if their years
are the same modulo 65536 and their months and days are the same. -/
theorem date_sent {p : Param} {v : Value} {d : Date} (hp : heldValue? p = some v)
    (hv : dateOf? v = some d) :
    ∃ sent, sentDate? (Datum.ofParam p) = some sent ∧ sent.month = d.month ∧ sent.day = d.day ∧
      (sent.year : Int) = d.year % 65536 ∧
      ((sent.year : Int) = d.year ↔ 0 ≤ d.year ∧ d.year < 65536) ∧
      ∀ p' v' d', heldValue? p' = some v' → dateOf? v' = some d' →
        (sentDate? (Datum.ofParam p') = some sent ↔
          d'.year % 65536 = d.year % 65536 ∧ d'.month = d.month ∧ d'.day = d.day) := by
  have hsent : sentDate? (Datum.ofParam p) = some (.of d) := by
    rw [ofParam_of_heldValue? hp]
    exact sentDate?_ofValue hv
  have hyear : ((SentDate.of d).year : Int) = d.year % 65536 := by
    simp only [SentDate.of]
    omega
  refine ⟨.of d, hsent, rfl, rfl, hyear, by omega, ?_⟩
  intro p' v' d' hp' hv'
  rw [ofParam_of_heldValue? hp', sentDate?_ofValue hv', Option.some.injEq]
  simp only [SentDate.of, SentDate.mk.injEq]
  omega

/-- A leap day bound under its type, and the one of 65536 years later bound as it is. -/
theorem date_sent_leap_day :
    let d : Date := ⟨2024, 2, 29, by decide, by decide, by decide⟩
    let later : Date := ⟨67560, 2, 29, by decide, by decide, by decide⟩
    let p : Param := .typed (.standard .date) (.date d)
    heldValue? p = some (.date d) ∧ dateOf? (.date d) = some d ∧
      ∃ sent, sentDate? (Datum.ofParam p) = some sent ∧ (sent.year : Int) = 2024 ∧
        sentDate? (Datum.ofParam (.object (.date later))) = some sent := by
  intro d later p
  obtain ⟨sent, hsent, _, _, _, hyear, hsame⟩ := date_sent (p := p) (v := .date d) rfl rfl
  exact ⟨rfl, rfl, sent, hsent, hyear.mpr (by decide),
    (hsame (.object (.date later)) _ later rfl rfl).mpr (by decide)⟩

/-- Two days that lie 65536 years apart are sent as one. -/
theorem distant_dates_sent_alike :
    let d : Date := ⟨2024, 2, 29, by decide, by decide, by decide⟩
    let later : Date := ⟨67560, 2, 29, by decide, by decide, by decide⟩
    d ≠ later ∧ Datum.ofParam (.object (.date d)) = .date 2024 2 29 0 0 0 0 ∧
      Datum.ofParam (.object (.date later)) = .date 2024 2 29 0 0 0 0 := by
  decide

/-! ### Times -/

/-- The time that is sent for a time of day. -/
def SentTime.of (t : Time) : SentTime := ⟨t.hour, t.minute, t.second, t.nano / 1000⟩

lemma toNat_clock (t : Time) : (UInt8.ofNat t.hour).toNat = t.hour ∧
    (UInt8.ofNat t.minute).toNat = t.minute ∧ (UInt8.ofNat t.second).toNat = t.second := by
  have hhour := t.hour_lt
  exact ⟨toNat_byte (by omega), toNat_byte t.minute_lt, toNat_byte t.second_lt⟩

lemma sentTime?_ofTime (t : Time) : sentTime? (Datum.ofTime t) = some (.of t) := by
  obtain ⟨hhour, hminute, hsecond⟩ := toNat_clock t
  simp only [sentTime?, Datum.ofTime, SentTime.of, hhour, hminute, hsecond, toNat_micros,
    and_self, if_true]

lemma sentTime?_ofDateTime (dt : DateTime) :
    sentTime? (Datum.ofDateTime dt) = some (.of dt.time) := by
  obtain ⟨hhour, hminute, hsecond⟩ := toNat_clock dt.time
  simp only [sentTime?, Datum.ofDateTime, SentTime.of, hhour, hminute, hsecond, toNat_micros]

lemma sentTime?_ofValue {v : Value} {t : Time} (h : timeOf? v = some t) :
    sentTime? (Datum.ofValue v) = some (.of t) := by
  cases v with
  | time t' =>
    obtain rfl : t' = t := Option.some.inj h
    exact sentTime?_ofTime t'
  | dateTime dt | moment dt =>
    obtain rfl : dt.time = t := Option.some.inj h
    exact sentTime?_ofDateTime dt
  | _ => cases h

/-- The hour, the minute and the second of the time that is sent are those of a clock, and its
microseconds are exactly if the time is in no leap second. In any case it is as many microseconds
after midnight as the time, rounded down. -/
theorem time_sent {p : Param} {v : Value} {t : Time} (hp : heldValue? p = some v)
    (hv : timeOf? v = some t) :
    ∃ sent, sentTime? (Datum.ofParam p) = some sent ∧
      sent.hour < 24 ∧ sent.minute < 60 ∧ sent.second < 60 ∧ sent.micros < 2000000 ∧
      (sent.OfClock ↔ t.nano < 1000000000) ∧ sent.microsOfDay = nanosOfDay t / 1000 := by
  have hsent : sentTime? (Datum.ofParam p) = some (.of t) := by
    rw [ofParam_of_heldValue? hp]
    exact sentTime?_ofValue hv
  have hhour := t.hour_lt
  have hminute := t.minute_lt
  have hsecond := t.second_lt
  have hnano := t.nano_lt
  have hmicros : (SentTime.of t).micros = t.nano / 1000 := rfl
  refine ⟨.of t, hsent, hhour, hminute, hsecond, by omega, ?_, ?_⟩
  · constructor
    · intro hclock
      have hbound := hclock.micros
      omega
    · intro hleap
      exact ⟨hhour, hminute, hsecond, by omega⟩
  · simp only [SentTime.microsOfDay, SentTime.of, nanosOfDay, Time.seconds]
    omega

/-- The last microsecond of a day, whose time has nanoseconds beyond it. -/
theorem time_sent_at_end_of_day :
    let t : Time := ⟨23, 59, 59, 999999999, by decide, by decide, by decide, by decide⟩
    let p : Param := .typed (.standard .time) (.time t)
    heldValue? p = some (.time t) ∧ timeOf? (.time t) = some t ∧
      ∃ sent, sentTime? (Datum.ofParam p) = some sent ∧ sent.OfClock ∧
        sent.microsOfDay = 86399999999 := by
  intro t p
  obtain ⟨sent, hsent, _, _, _, _, hclock, hmicros⟩ :=
    time_sent (p := p) (v := .time t) rfl rfl
  exact ⟨rfl, rfl, sent, hsent, hclock.mpr (by decide), hmicros.trans (by decide)⟩

/-- Half a second into the leap second before half past five, as a time of day and on a day. -/
theorem leap_second_sent :
    let t : Time := ⟨5, 29, 59, 1500000000, by decide, by decide, by decide, by decide⟩
    let d : Date := ⟨2016, 12, 31, by decide, by decide, by decide⟩
    Datum.ofParam (.object (.time t)) = .time false 0 5 29 59 1500000 ∧
      Datum.ofParam (.object (.dateTime ⟨d, t⟩)) = .date 2016 12 31 5 29 59 1500000 ∧
      ¬ (⟨5, 29, 59, 1500000⟩ : SentTime).OfClock := by
  intro t d
  refine ⟨by decide, by decide, ?_⟩
  intro hclock
  exact absurd hclock.micros (by decide)

end BatchInsert.Proofs
