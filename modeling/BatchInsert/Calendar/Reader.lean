import BatchInsert.Calendar.Time
import BatchInsert.Text.Blank

/-!
# Reading dates and times

Numerals separated by single marks, with blanks allowed before a numeral and before most marks. The
kind of failure is that of the first character that does not fit.
-/

namespace BatchInsert.Calendar

inductive ReadError
  | outOfRange
  | impossible
  | invalid
  | tooShort
  | trailing
deriving DecidableEq

def ReadError.message : ReadError → String
  | outOfRange => "input is out of range"
  | impossible => "no possible date and time matching input"
  | invalid => "input contains invalid characters"
  | tooShort => "premature end of input"
  | trailing => "trailing input"

/-- A reader takes what it reads off the front of a text. -/
abbrev Reader := StateT (List Char) (Except ReadError)

namespace Reader

/-- A run of one to `width` digits below 2 ^ 63. -/
def digits (width : Nat) (acc : Nat) (first : Bool) : Reader Nat := fun cs =>
  match width, cs with
  | 0, cs => .ok (acc, cs)
  | _ + 1, [] => if first then .error .tooShort else .ok (acc, [])
  | width + 1, c :: cs =>
    match Text.digitValue? 10 c with
    | none => if first then .error .invalid else .ok (acc, c :: cs)
    | some d =>
      let next := acc * 10 + d
      if next < 2 ^ 63 then digits width next false cs else .error .outOfRange

def blanks : Reader Unit := fun cs => .ok ((), Text.trimStart cs)

def mark (c : Char) : Reader Unit
  | [] => .error .tooShort
  | d :: cs => if c == d then .ok ((), cs) else .error .invalid

/-- Blanks, then a numeral of one or two digits between `low` and `high`. -/
def pair (low high : Nat) : Reader Nat := do
  blanks
  let n ← digits 2 0 true
  if low ≤ n && n ≤ high then return n else throw .outOfRange

/-- Four digits, or any number of them after a sign. -/
def year : Reader Int := do
  blanks
  let cs ← get
  let n : Int ← match cs with
    | '-' :: rest => do
      set rest
      let n ← digits rest.length 0 true
      pure (-(n : Int))
    | '+' :: rest => do
      set rest
      let n ← digits rest.length 0 true
      pure (n : Int)
    | _ => do
      let n ← digits 4 0 true
      pure (n : Int)
  if -2147483648 ≤ n && n ≤ 2147483647 then return n else throw .outOfRange

/-- Year, month and day, each within its own bounds but perhaps of no date. -/
def dateParts : Reader (Int × Nat × Nat) := do
  let y ← year
  blanks
  mark '-'
  let m ← pair 1 12
  blanks
  mark '-'
  let d ← pair 1 31
  return (y, m, d)

/-- Nanoseconds after a point; digits past the ninth are passed over. -/
def fraction : Reader Nat := fun cs =>
  match cs with
  | '.' :: rest =>
    match digits 9 0 true rest with
    | .error e => .error e
    | .ok (n, rest') =>
      .ok (n * 10 ^ (9 - (rest.length - rest'.length)), rest'.dropWhile Text.isDigit)
  | cs => .ok (0, cs)

def hourMinute : Reader (Nat × Nat) := do
  let h ← pair 0 23
  blanks
  mark ':'
  let m ← pair 0 59
  return (h, m)

def secondFraction : Reader (Nat × Nat) := do
  blanks
  mark ':'
  let s ← pair 0 60
  let n ← fraction
  blanks
  return (s, n)

/-- `r`, or nothing taken and `default` where it fails. -/
def orElse {α : Type} (r : Reader α) (default : α) : Reader α := fun cs =>
  match r cs with
  | .ok result => .ok result
  | .error _ => .ok (default, cs)

/-- Two digits off the front; a character that is no digit counts for its bytes. -/
def twoDigits : List Char → Except ReadError ((Nat × Nat) × List Char)
  | a :: b :: cs =>
    match Text.digitValue? 10 a, Text.digitValue? 10 b with
    | some x, some y => .ok ((x, y), cs)
    | _, _ => .error .invalid
  | [a] => .error (if a.utf8Size < 2 then .tooShort else .invalid)
  | [] => .error .tooShort

/-- Hours and minutes, any colons and blanks between them, in seconds. -/
def hoursMinutes (sign : Int) (cs : List Char) : Except ReadError (Int × List Char) := do
  let ((h₁, h₂), cs) ← twoDigits cs
  let ((m₁, m₂), cs) ← twoDigits (cs.dropWhile fun c => c == ':' || Text.isBlank c)
  if 5 < m₁ then throw .outOfRange
  return (sign * (((h₁ * 10 + h₂) * 60 + m₁ * 10 + m₂) * 60 : Nat), cs)

/-- A `Z`, or a sign with hours and minutes. -/
def signedOffset : List Char → Except ReadError (Int × List Char)
  | [] => .error .tooShort
  | c :: cs =>
    if c == 'Z' || c == 'z' then .ok (0, cs)
    else if c == '+' then hoursMinutes 1 cs
    else if c == '-' || c == '\u2212' then hoursMinutes (-1) cs
    else .error .invalid

/-- Seconds east of UTC; the letters UTC in either case are zero. -/
def offset : Reader Int := fun cs =>
  match Text.trimStart cs with
  | u :: t :: c :: rest =>
    if u.toUpper == 'U' && t.toUpper == 'T' && c.toUpper == 'C' then .ok (0, rest)
    else signedOffset (u :: t :: c :: rest)
  | cs => signedOffset cs

def atEnd : Reader Unit
  | [] => .ok ((), [])
  | _ :: _ => .error .trailing

end Reader

def date? (parts : Int × Nat × Nat) : Except ReadError Date :=
  match Date.ofParts? parts.1 parts.2.1 parts.2.2 with
  | some d => .ok d
  | none => .error .outOfRange

/-- Second 60 is second 59 with a second more in the fraction. -/
def time? (hour minute second nano : Nat) : Except ReadError Time :=
  let parts := if second = 60 then (59, nano + 1000000000) else (second, nano)
  match Time.ofParts? hour minute parts.1 parts.2 with
  | some t => .ok t
  | none => .error .outOfRange

def Date.ofText (s : String) : Except ReadError Date := do
  let reader : Reader (Int × Nat × Nat) := do
    let parts ← Reader.dateParts
    Reader.blanks
    Reader.atEnd
    return parts
  date? (← reader.run' s.toList)

/-- Seconds may be left out. -/
def Time.ofText (s : String) : Except ReadError Time := do
  let reader : Reader (Nat × Nat × Nat × Nat) := do
    let (h, m) ← Reader.hourMinute
    let (s, n) ← Reader.orElse Reader.secondFraction (0, 0)
    Reader.blanks
    Reader.atEnd
    return (h, m, s, n)
  let (h, m, s, n) ← reader.run' s.toList
  time? h m s n

/-- A date, a capital `T` and a time with seconds. -/
def DateTime.ofText (s : String) : Except ReadError DateTime := do
  let reader : Reader ((Int × Nat × Nat) × Nat × Nat × Nat × Nat) := do
    let parts ← Reader.dateParts
    Reader.blanks
    Reader.mark 'T'
    let (h, m) ← Reader.hourMinute
    let (s, n) ← Reader.secondFraction
    Reader.atEnd
    return (parts, h, m, s, n)
  let (parts, h, m, s, n) ← reader.run' s.toList
  return ⟨← date? parts, ← time? h m s n⟩

/-- A date and a time apart by one `T` or space, then the distance from UTC; the result is in
UTC. -/
def DateTime.ofZonedText (s : String) : Except ReadError DateTime := do
  let separator : Reader Unit := fun cs =>
    match cs with
    | [] => .error .tooShort
    | c :: cs => if c == 'T' || c == 't' || c == ' ' then .ok ((), cs) else .error .invalid
  let reader : Reader ((Int × Nat × Nat) × (Nat × Nat × Nat × Nat) × Int) := do
    let parts ← Reader.dateParts
    separator
    let (h, m) ← Reader.hourMinute
    let (s, n) ← Reader.secondFraction
    let offset ← Reader.offset
    Reader.blanks
    Reader.atEnd
    return (parts, (h, m, s, n), offset)
  let (parts, (h, m, s, n), offset) ← reader.run' s.toList
  let dt : DateTime := ⟨← date? parts, ← time? h m s n⟩
  if offset ≤ -86400 || 86400 ≤ offset then throw .outOfRange
  match dt.toUtc? offset with
  | some utc => return utc
  | none => throw .impossible

end BatchInsert.Calendar
