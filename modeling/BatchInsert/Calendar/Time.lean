import BatchInsert.Calendar.Date

/-!
# Times of day

Nanoseconds of a second run up to 1999999999, so that a leap second is second 59 with an extra
second in the fraction.
-/

namespace BatchInsert.Calendar

structure Time where
  hour : Nat
  minute : Nat
  second : Nat
  nano : Nat
  hour_lt : hour < 24
  minute_lt : minute < 60
  second_lt : second < 60
  nano_lt : nano < 2000000000
deriving DecidableEq

namespace Time

def ofParts? (hour minute second nano : Nat) : Option Time :=
  if h : hour < 24 ∧ minute < 60 ∧ second < 60 ∧ nano < 2000000000 then
    some ⟨hour, minute, second, nano, h.1, h.2.1, h.2.2.1, h.2.2.2⟩
  else none

theorem ofParts?_self (t : Time) : ofParts? t.hour t.minute t.second t.nano = some t := by
  rw [ofParts?, dif_pos ⟨t.hour_lt, t.minute_lt, t.second_lt, t.nano_lt⟩]

/-- Whole seconds since midnight. -/
def seconds (t : Time) : Nat := (t.hour * 60 + t.minute) * 60 + t.second

/-- `s` seconds after midnight, without whole days, and `nano` nanoseconds. -/
def ofSeconds (s nano : Nat) (h : nano < 2000000000) : Time :=
  ⟨s / 3600 % 24, s / 60 % 60, s % 60, nano, Nat.mod_lt _ (by decide), Nat.mod_lt _ (by decide),
    Nat.mod_lt _ (by decide), h⟩

/-- Three, six or nine digits after a point, nothing for a whole second. -/
def fractionText (nano : Nat) : String :=
  if nano = 0 then ""
  else if nano % 1000000 = 0 then "." ++ Text.paddedDecimal 3 (nano / 1000000)
  else if nano % 1000 = 0 then "." ++ Text.paddedDecimal 6 (nano / 1000)
  else "." ++ Text.paddedDecimal 9 nano

/-- A leap second is shown as second 60. -/
def text (t : Time) : String :=
  let leap := 1000000000 ≤ t.nano
  Text.paddedDecimal 2 t.hour ++ ":" ++ Text.paddedDecimal 2 t.minute ++ ":" ++
    Text.paddedDecimal 2 (if leap then t.second + 1 else t.second) ++
    fractionText (if leap then t.nano - 1000000000 else t.nano)

end Time

/-- A date and a time of day, in UTC where a zone is meant. -/
structure DateTime where
  date : Date
  time : Time
deriving DecidableEq

namespace DateTime

def text (separator : String) (dt : DateTime) : String :=
  dt.date.text ++ separator ++ dt.time.text

/-- The moment in UTC of a local date and time `offset` seconds east of it. -/
def toUtc? (dt : DateTime) (offset : Int) : Option DateTime :=
  let s := (dt.time.seconds : Int) - offset
  let time := Time.ofSeconds (s % 86400).toNat dt.time.nano dt.time.nano_lt
  let date? :=
    if s < 0 then dt.date.previous? else if 86400 ≤ s then dt.date.next? else some dt.date
  date?.map (⟨·, time⟩)

end DateTime

end BatchInsert.Calendar
