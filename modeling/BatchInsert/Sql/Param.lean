import BatchInsert.Sql.Tag

/-!
# Parameters

What is bound to a placeholder: a null of a declared type, a value under a declared type, or a value
whose type the database has to find out. A value under a declared type is kept in the form of that
type.
-/

namespace BatchInsert.Sql

inductive TypedValue
  | boolean (b : Bool)
  | string (s : String)
  | byte (n : Int8)
  | short (n : Int16)
  | int (n : Int32)
  | long (n : Int64)
  | float (x : Binary.Binary32)
  | double (x : Binary.Binary64)
  | decimal (d : Decimal)
  | date (d : Calendar.Date)
  | time (t : Calendar.Time)
  | timestamp (dt : Calendar.DateTime)
  | bytes (bs : List UInt8)
deriving DecidableEq

namespace TypedValue

/-- The typed form of a value of a kind that some standard type takes. -/
def ofKind? : Value → Option TypedValue
  | .bool b => some (boolean b)
  | .string s => some (string s)
  | .int8 n => some (byte n)
  | .int16 n => some (short n)
  | .int32 n => some (int n)
  | .int64 n => some (long n)
  | .float32 x => some (float x)
  | .float64 x => some (double x)
  | .decimal d => some (decimal d)
  | .date d => some (date d)
  | .time t => some (time t)
  | .dateTime dt => some (timestamp dt)
  | .bytes bs => some (bytes bs)
  | .null | .moment _ | .uuid _ | .json _ => none

def value : TypedValue → Value
  | boolean b => .bool b
  | string s => .string s
  | byte n => .int8 n
  | short n => .int16 n
  | int n => .int32 n
  | long n => .int64 n
  | float x => .float32 x
  | double x => .float64 x
  | decimal d => .decimal d
  | date d => .date d
  | time t => .time t
  | timestamp dt => .dateTime dt
  | bytes bs => .bytes bs

theorem value_of_ofKind? {v : Value} {tv : TypedValue} (h : ofKind? v = some tv) :
    tv.value = v := by
  cases v <;> simp only [ofKind?, Option.some.injEq, reduceCtorEq] at h <;> subst h <;> rfl

theorem ofKind?_value (tv : TypedValue) : ofKind? tv.value = some tv := by
  cases tv <;> rfl

/-- A value under a tag. There is no conversion: the value must be of the tag's kind. -/
def ofValue (tag : Tag) (v : Value) : Except Database.Error TypedValue :=
  match tag.kind? with
  | none => .error (.conversion (tag.text ++ " has no typed bind"))
  | some k =>
    match if v.kind = k then ofKind? v else none with
    | some tv => .ok tv
    | none =>
      .error (.conversion
        ("cannot bind " ++ v.kind.name ++ " value " ++ v.text ++ " as " ++ tag.text))

end TypedValue

inductive Param
  | null (tag : Tag)
  | typed (tag : Tag) (value : TypedValue)
  | object (value : Value)

namespace Param

def isNull : Param → Bool
  | null _ => true
  | typed _ _ => false
  | object v => v.isNull

end Param

end BatchInsert.Sql
