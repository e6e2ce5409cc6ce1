import BatchInsert.Calendar.Reader
import BatchInsert.Decimal.Reader
import BatchInsert.Value.Basic

/-!
# Values in documents

A value is written as an object whose one member is named for the kind and holds the payload. Null
is the bare name of its kind.
-/

namespace BatchInsert.Value

open Document (Scalar Found Mismatch)

/-- The payload of a value in JSON. -/
def payloadChars : Value → List Char
  | null => "null".toList
  | bool b => Json.boolChars b
  | int8 n => (Text.integer n.toInt).toList
  | int16 n => (Text.integer n.toInt).toList
  | int32 n => (Text.integer n.toInt).toList
  | int64 n => (Text.integer n.toInt).toList
  | float32 x => (Json.realText Json.style32 x).toList
  | float64 x => (Json.realText Json.style64 x).toList
  | decimal d => Json.stringChars d.text
  | string s => Json.stringChars s
  | bytes bs => Json.arrayChars (bs.map fun b => Text.decimalChars b.toNat)
  | date d => Json.stringChars d.text
  | time t => Json.stringChars t.text
  | dateTime dt => Json.stringChars (dt.text "T")
  | moment utc => Json.stringChars (utc.text "T" ++ "Z")
  | uuid u => Json.stringChars u.text
  | json j => j.chars

/-- A value in compact JSON. -/
def jsonChars (v : Value) : List Char :=
  if v.isNull then Json.stringChars v.kind.label
  else Json.objectChars [(v.kind.label, v.payloadChars)]

/-- What a reader of a payload expects. -/
def Kind.expectation : Kind → String
  | null => "unit"
  | bool => "a boolean"
  | int8 => "i8"
  | int16 => "i16"
  | int32 => "i32"
  | int64 => "i64"
  | float32 => "f32"
  | float64 => "f64"
  | decimal => "a Decimal type representing a fixed-point number"
  | string => "a string"
  | bytes => "a sequence"
  | date => "a formatted date string"
  | time => "a formatted time string"
  | dateTime => "a formatted date and time string"
  | moment => "an RFC 3339 formatted date and time string"
  | uuid => "a formatted UUID string"
  | json => "any valid JSON value"

/-- A value from an integer of `width` bits, the sign included. -/
def ofInteger (k : Kind) (width : Nat) (build : Int → Value) : Scalar → Except Mismatch Value
  | .integer i =>
    if -(2 ^ (width - 1) : Int) ≤ i ∧ i < 2 ^ (width - 1) then .ok (build i)
    else .error (.wrongValue (.scalar (.integer i)) k.expectation)
  | s => .error (.wrongType (.scalar s) k.expectation)

/-- A floating-point number from a number of either kind. -/
def ofNumber (k : Kind) (f : Binary.Format) (build : Binary.Number f → Value) :
    Scalar → Except Mismatch Value
  | .integer i => .ok (build (Binary.Number.ofInt f i))
  | .real x => .ok (build (x.convert f))
  | s => .error (.wrongType (.scalar s) k.expectation)

/-- A value from a text that has a reader of its own. -/
def ofReadable {ε α : Type} (k : Kind) (read : String → Except ε α) (message : ε → String)
    (build : α → Value) : Scalar → Except Mismatch Value
  | .string s =>
    match read s with
    | .ok a => .ok (build a)
    | .error e => .error (.refused (message e))
  | s => .error (.wrongType (.scalar s) k.expectation)

/-- Decimals are read from texts and from numbers, a real one by all its digits. -/
def ofDecimal (s : Scalar) : Except Mismatch Value :=
  let read? := match s with
    | .integer i => some (Decimal.ofInt? i)
    | .real x => some (Decimal.ofText? (x.text .plain))
    | .string t => some (Decimal.ofText? t)
    | _ => none
  match read? with
  | some (some d) => .ok (.decimal d)
  | some none => .error (.wrongValue (.scalar s) Kind.decimal.expectation)
  | none => .error (.wrongType (.scalar s) Kind.decimal.expectation)

/-- A value of a kind from a scalar payload. -/
def ofScalar (k : Kind) (s : Scalar) : Except Mismatch Value :=
  let refuse : Except Mismatch Value := .error (.wrongType (.scalar s) k.expectation)
  match k with
  | .null => if s == .null then .ok .null else refuse
  | .bool =>
    match s with
    | .bool b => .ok (.bool b)
    | _ => refuse
  | .int8 => ofInteger k 8 (fun i => .int8 (Int8.ofInt i)) s
  | .int16 => ofInteger k 16 (fun i => .int16 (Int16.ofInt i)) s
  | .int32 => ofInteger k 32 (fun i => .int32 (Int32.ofInt i)) s
  | .int64 => ofInteger k 64 (fun i => .int64 (Int64.ofInt i)) s
  | .float32 => ofNumber k .single .float32 s
  | .float64 => ofNumber k .double .float64 s
  | .decimal => ofDecimal s
  | .string =>
    match s with
    | .string t => .ok (.string t)
    | _ => refuse
  | .bytes => refuse
  | .date => ofReadable k Calendar.Date.ofText Calendar.ReadError.message .date s
  | .time => ofReadable k Calendar.Time.ofText Calendar.ReadError.message .time s
  | .dateTime => ofReadable k Calendar.DateTime.ofText Calendar.ReadError.message .dateTime s
  | .moment => ofReadable k Calendar.DateTime.ofZonedText Calendar.ReadError.message .moment s
  | .uuid => ofReadable k Uuid.ofText (fun e => "UUID parsing failed: " ++ e.message) .uuid s
  | .json =>
    match s with
    | .null => .ok (.json .null)
    | .bool b => .ok (.json (.bool b))
    | .integer i => .ok (.json (.number (.integer i)))
    | .real x => .ok (.json (.number (.real x)))
    | .string t => .ok (.json (.string t))

def ofByte : Scalar → Except Mismatch UInt8
  | .integer i =>
    if 0 ≤ i ∧ i < 256 then .ok (UInt8.ofNat i.toNat)
    else .error (.wrongValue (.scalar (.integer i)) "u8")
  | s => .error (.wrongType (.scalar s) "u8")

def ofByteJson (j : Json) : Except Mismatch UInt8 :=
  match j.found with
  | .scalar s => ofByte s
  | found => .error (.wrongType found "u8")

def kindOfLabel (s : String) : Except Mismatch Kind :=
  match Kind.ofLabel? s with
  | some k => .ok k
  | none => .error (.unknownVariant s (Kind.all.map Kind.label))

/-- A value of a kind from its payload. -/
def ofPayload (k : Kind) (payload : Json) : Except Mismatch Value :=
  match k, payload with
  | .json, j => .ok (.json j)
  | .bytes, .array items => (items.mapM ofByteJson).map .bytes
  | k, j =>
    match j.found with
    | .scalar s => ofScalar k s
    | found => .error (.wrongType found k.expectation)

/-- A value from its JSON form; null may also be written as an object with a null payload. -/
def ofJson : Json → Except Mismatch Value
  | .object [(label, payload)] => do ofPayload (← kindOfLabel label) payload
  | .object _ => .error (.wrongValue .map "map with a single key")
  | .string label => do
    let k ← kindOfLabel label
    if k == .null then return .null
    throw (.wrongType .unitVariant "newtype variant")
  | j => .error (.wrongType j.found "string or map")

end BatchInsert.Value
