import BatchInsert.Binary.Bytes
import BatchInsert.Json.Printer
import BatchInsert.Sql.Param
import BatchInsert.Url.Percent

/-!
# MySQL parameters

The few kinds of values that MySQL is sent, and their binary form. Decimals, UUIDs and JSON go as
text; a date has 16 bits for its year; fractions of a second have six digits.
-/

namespace BatchInsert.Mysql

inductive Datum
  | null
  | bytes (bs : List UInt8)
  | integer (n : Int64)
  | float (x : Binary.Binary32)
  | double (x : Binary.Binary64)
  | date (year : UInt16) (month day hour minute second : UInt8) (micros : UInt32)
  | time (negative : Bool) (days : UInt32) (hours minutes seconds : UInt8) (micros : UInt32)
deriving DecidableEq

namespace Datum

def text (s : String) : Datum := bytes (Url.utf8Bytes s.toList)

def ofDate (d : Calendar.Date) : Datum :=
  date (.ofInt d.year) (.ofNat d.month) (.ofNat d.day) 0 0 0 0

def ofTime (t : Calendar.Time) : Datum :=
  time false 0 (.ofNat t.hour) (.ofNat t.minute) (.ofNat t.second) (.ofNat (t.nano / 1000))

def ofDateTime (dt : Calendar.DateTime) : Datum :=
  let t := dt.time
  date (.ofInt dt.date.year) (.ofNat dt.date.month) (.ofNat dt.date.day) (.ofNat t.hour)
    (.ofNat t.minute) (.ofNat t.second) (.ofNat (t.nano / 1000))

def ofValue : Value → Datum
  | .null => null
  | .bool b => integer (if b then 1 else 0)
  | .int8 n => integer n.toInt64
  | .int16 n => integer n.toInt64
  | .int32 n => integer n.toInt64
  | .int64 n => integer n
  | .float32 x => float x
  | .float64 x => double x
  | .decimal d => text d.text
  | .string s => text s
  | .bytes bs => bytes bs
  | .date d => ofDate d
  | .time t => ofTime t
  | .dateTime dt => ofDateTime dt
  | .moment dt => ofDateTime dt
  | .uuid u => text u.text
  | .json j => text j.text

/-- The type of a value is found out by the server, also that of a null. -/
def ofParam : Sql.Param → Datum
  | .null _ => null
  | .typed _ v => ofValue v.value
  | .object v => ofValue v

end Datum

end BatchInsert.Mysql
