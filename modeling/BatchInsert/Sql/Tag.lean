import BatchInsert.Database.Error
import BatchInsert.Text.Blank
import BatchInsert.Text.Case
import BatchInsert.Value.Basic

/-!
# SQL type tags

The type declared for a placeholder: one of the standard types, or a bare type code. A bare code may
be that of a standard type; `normalize` replaces it by that type. Codes are those of the common
database connectivity interfaces.
-/

namespace BatchInsert.Sql

inductive Standard
  | null
  | boolean
  | bit
  | char
  | nchar
  | varchar
  | longVarchar
  | longNVarchar
  | tinyInt
  | smallInt
  | integer
  | bigInt
  | real
  | float
  | double
  | decimal
  | numeric
  | date
  | time
  | timestamp
  | binary
  | varBinary
  | longVarBinary
deriving DecidableEq, Repr

namespace Standard

def all : List Standard :=
  [null, boolean, bit, char, nchar, varchar, longVarchar, longNVarchar, tinyInt, smallInt, integer,
    bigInt, real, float, double, decimal, numeric, date, time, timestamp, binary, varBinary,
    longVarBinary]

theorem mem_all (t : Standard) : t ∈ all := by
  cases t <;> decide

def name : Standard → String
  | null => "NULL"
  | boolean => "BOOLEAN"
  | bit => "BIT"
  | char => "CHAR"
  | nchar => "NCHAR"
  | varchar => "VARCHAR"
  | longVarchar => "LONGVARCHAR"
  | longNVarchar => "LONGNVARCHAR"
  | tinyInt => "TINYINT"
  | smallInt => "SMALLINT"
  | integer => "INTEGER"
  | bigInt => "BIGINT"
  | real => "REAL"
  | float => "FLOAT"
  | double => "DOUBLE"
  | decimal => "DECIMAL"
  | numeric => "NUMERIC"
  | date => "DATE"
  | time => "TIME"
  | timestamp => "TIMESTAMP"
  | binary => "BINARY"
  | varBinary => "VARBINARY"
  | longVarBinary => "LONGVARBINARY"

/-- The name in the text of an inspected value. -/
def label : Standard → String
  | null => "Null"
  | boolean => "Boolean"
  | bit => "Bit"
  | char => "Char"
  | nchar => "NChar"
  | varchar => "Varchar"
  | longVarchar => "LongVarchar"
  | longNVarchar => "LongNVarchar"
  | tinyInt => "TinyInt"
  | smallInt => "SmallInt"
  | integer => "Integer"
  | bigInt => "BigInt"
  | real => "Real"
  | float => "Float"
  | double => "Double"
  | decimal => "Decimal"
  | numeric => "Numeric"
  | date => "Date"
  | time => "Time"
  | timestamp => "Timestamp"
  | binary => "Binary"
  | varBinary => "VarBinary"
  | longVarBinary => "LongVarBinary"

def code : Standard → Int32
  | null => 0
  | boolean => 16
  | bit => -7
  | char => 1
  | nchar => -15
  | varchar => 12
  | longVarchar => -1
  | longNVarchar => -16
  | tinyInt => -6
  | smallInt => 5
  | integer => 4
  | bigInt => -5
  | real => 7
  | float => 6
  | double => 8
  | decimal => 3
  | numeric => 2
  | date => 91
  | time => 92
  | timestamp => 93
  | binary => -2
  | varBinary => -3
  | longVarBinary => -4

def ofCode? (c : Int32) : Option Standard := all.find? fun t => t.code == c

theorem ofCode?_code (t : Standard) : ofCode? t.code = some t := by
  cases t <;> decide

theorem ofCode?_eq_some_iff {c : Int32} {t : Standard} : ofCode? c = some t ↔ t.code = c := by
  constructor
  · intro h
    simpa using List.find?_some h
  · rintro rfl
    exact ofCode?_code t

/-- The kind of values that a column of the type takes; a column of nulls takes none. -/
def kind? : Standard → Option Value.Kind
  | null => none
  | boolean | bit => some .bool
  | char | nchar | varchar | longVarchar | longNVarchar => some .string
  | tinyInt => some .int8
  | smallInt => some .int16
  | integer => some .int32
  | bigInt => some .int64
  | real => some .float32
  | float | double => some .float64
  | decimal | numeric => some .decimal
  | date => some .date
  | time => some .time
  | timestamp => some .dateTime
  | binary | varBinary | longVarBinary => some .bytes

end Standard

/-- Names of types beyond the standard ones, with their codes. -/
def furtherNames : List (String × Int32) :=
  [("NVARCHAR", -9), ("OTHER", 1111), ("JAVA_OBJECT", 2000), ("DISTINCT", 2001), ("STRUCT", 2002),
    ("ARRAY", 2003), ("BLOB", 2004), ("CLOB", 2005), ("REF", 2006), ("DATALINK", 70), ("ROWID", -8),
    ("NCLOB", 2011), ("SQLXML", 2009), ("TIMESTAMP_WITH_TIMEZONE", 2014)]

inductive Tag
  | standard (t : Standard)
  | other (code : Int32)
deriving DecidableEq, Repr

namespace Tag

def ofCode (c : Int32) : Tag :=
  match Standard.ofCode? c with
  | some t => standard t
  | none => other c

/-- A bare code of a standard type becomes that type. -/
def normalize : Tag → Tag
  | standard t => standard t
  | other c => ofCode c

def code : Tag → Int32
  | standard t => t.code
  | other c => c

def name? : Tag → Option String
  | standard t => some t.name
  | other c => (furtherNames.find? fun n => n.2 == c).map Prod.fst

/-- Whether values are bound by the declared type. -/
def isManaged : Tag → Bool
  | standard _ => true
  | other _ => false

/-- The kind of values that may be bound under the tag. -/
def kind? : Tag → Option Value.Kind
  | standard t => t.kind?
  | other _ => none

def text (t : Tag) : String :=
  t.name?.getD ("type code " ++ Text.integer t.code.toInt)

def inspect : Tag → String
  | standard t => t.label
  | other c => "Other(" ++ Text.integer c.toInt ++ ")"

/-- A tag from its name in any case, or from its code, with blanks around it. -/
def ofText? (s : String) : Option Tag :=
  let name := Text.trim s
  match Standard.all.find? fun t => Text.sameLetters t.name name with
  | some t => some (standard t)
  | none =>
    match furtherNames.find? fun n => Text.sameLetters n.1 name with
    | some n => some (other n.2)
    | none => (Text.int32? name.toList).map fun i => ofCode (Int32.ofInt i)

def ofText (s : String) : Except Database.Error Tag :=
  match ofText? s with
  | some t => .ok t
  | none => .error (.configuration ("unknown SQL type '" ++ Text.trim s ++ "'"))

theorem ofCode_code (t : Tag) : ofCode t.code = t.normalize := by
  cases t with
  | standard t => simp [ofCode, code, normalize, Standard.ofCode?_code]
  | other c => rfl

end Tag

end BatchInsert.Sql
