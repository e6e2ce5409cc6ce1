import BatchInsert.Calendar.Time
import BatchInsert.Decimal.Basic
import BatchInsert.Json.Printer
import BatchInsert.Uuid

/-!
# Field values

The values that a field of a record can hold: null, or a value of one of sixteen kinds. Moments in
time with a zone are kept in UTC.
-/

namespace BatchInsert

inductive Value
  | null
  | bool (b : Bool)
  | int8 (n : Int8)
  | int16 (n : Int16)
  | int32 (n : Int32)
  | int64 (n : Int64)
  | float32 (x : Binary.Binary32)
  | float64 (x : Binary.Binary64)
  | decimal (d : Decimal)
  | string (s : String)
  | bytes (bs : List UInt8)
  | date (d : Calendar.Date)
  | time (t : Calendar.Time)
  | dateTime (dt : Calendar.DateTime)
  | moment (utc : Calendar.DateTime)
  | uuid (u : Uuid)
  | json (j : Json)

namespace Value

inductive Kind
  | null
  | bool
  | int8
  | int16
  | int32
  | int64
  | float32
  | float64
  | decimal
  | string
  | bytes
  | date
  | time
  | dateTime
  | moment
  | uuid
  | json
deriving DecidableEq, Repr

namespace Kind

def all : List Kind :=
  [null, bool, int8, int16, int32, int64, float32, float64, decimal, string, bytes, date, time,
    dateTime, moment, uuid, json]

theorem mem_all (k : Kind) : k ∈ all := by
  cases k <;> decide

/-- The name of a kind in messages. -/
def name : Kind → String
  | null => "null"
  | bool => "bool"
  | int8 => "int8"
  | int16 => "int16"
  | int32 => "int32"
  | int64 => "int64"
  | float32 => "float32"
  | float64 => "float64"
  | decimal => "decimal"
  | string => "string"
  | bytes => "bytes"
  | date => "date"
  | time => "time"
  | dateTime => "datetime"
  | moment => "datetime_tz"
  | uuid => "uuid"
  | json => "json"

/-- The name of a kind in documents. -/
def label : Kind → String
  | null => "Null"
  | bool => "Bool"
  | int8 => "Int8"
  | int16 => "Int16"
  | int32 => "Int32"
  | int64 => "Int64"
  | float32 => "Float32"
  | float64 => "Float64"
  | decimal => "Decimal"
  | string => "String"
  | bytes => "Bytes"
  | date => "Date"
  | time => "Time"
  | dateTime => "DateTime"
  | moment => "DateTimeTz"
  | uuid => "Uuid"
  | json => "Json"

def ofLabel? (s : String) : Option Kind := all.find? fun k => k.label == s

theorem ofLabel?_label (k : Kind) : ofLabel? k.label = some k := by
  cases k <;> decide

end Kind

def kind : Value → Kind
  | null => .null
  | bool _ => .bool
  | int8 _ => .int8
  | int16 _ => .int16
  | int32 _ => .int32
  | int64 _ => .int64
  | float32 _ => .float32
  | float64 _ => .float64
  | decimal _ => .decimal
  | string _ => .string
  | bytes _ => .bytes
  | date _ => .date
  | time _ => .time
  | dateTime _ => .dateTime
  | moment _ => .moment
  | uuid _ => .uuid
  | json _ => .json

def isNull (v : Value) : Bool := v.kind == .null

/-- A value that may be missing; a missing one is null. -/
def ofOption (v : Option Value) : Value := v.getD null

/-- The integer that a value of an integer kind holds. -/
def integer? : Value → Option Int
  | int8 n => some n.toInt
  | int16 n => some n.toInt
  | int32 n => some n.toInt
  | int64 n => some n.toInt
  | _ => none

/-- Equality within a kind. Floating-point numbers and decimals compare by their value, so that a
NaN differs from itself and `1.0` equals `1.00`. -/
def sameValue : Value → Value → Bool
  | null, null => true
  | bool a, bool b => a == b
  | int8 a, int8 b => a == b
  | int16 a, int16 b => a == b
  | int32 a, int32 b => a == b
  | int64 a, int64 b => a == b
  | float32 a, float32 b => a.sameValue b
  | float64 a, float64 b => a.sameValue b
  | decimal a, decimal b => a.sameValue b
  | string a, string b => a == b
  | bytes a, bytes b => a == b
  | date a, date b => a == b
  | time a, time b => a == b
  | dateTime a, dateTime b => a == b
  | moment a, moment b => a == b
  | uuid a, uuid b => a == b
  | json a, json b => a.sameValue b
  | _, _ => false

/-- The text of a value in messages and logs. -/
def text : Value → String
  | null => "NULL"
  | bool b => if b then "true" else "false"
  | int8 n => Text.integer n.toInt
  | int16 n => Text.integer n.toInt
  | int32 n => Text.integer n.toInt
  | int64 n => Text.integer n.toInt
  | float32 x => x.text .plain
  | float64 x => x.text .plain
  | decimal d => d.text
  | string s => Text.quoted s
  | bytes bs => "<" ++ Text.decimal bs.length ++ " bytes>"
  | date d => d.text
  | time t => t.text
  | dateTime dt => dt.text " "
  | moment utc => utc.text " " ++ " UTC"
  | uuid u => u.text
  | json j => j.text

end Value

end BatchInsert
