import BatchInsert.Binary.Bytes
import BatchInsert.Json.Printer
import BatchInsert.Sql.Param
import BatchInsert.Url.Percent

/-!
# PostgreSQL parameters

A value of one of PostgreSQL's own types, the types of a server that take it, and its binary form.
-/

namespace BatchInsert.Postgres

/-- The type of a parameter as the server declares it; types of a user are known by name. -/
structure ServerType where
  oid : Nat
  name : String
deriving DecidableEq

inductive Kind
  | bool
  | text
  | int2
  | int4
  | int8
  | float4
  | float8
  | numeric
  | bytea
  | date
  | time
  | timestamp
  | timestamptz
  | uuid
  | json
deriving DecidableEq, Repr

namespace Kind

/-- The types of a server that every installation has and that take the kind. -/
def oids : Kind → List Nat
  | bool => [16]
  | text => [19, 25, 705, 1042, 1043]
  | int2 => [21]
  | int4 => [23]
  | int8 => [20]
  | float4 => [700]
  | float8 => [701]
  | numeric => [1700]
  | bytea => [17]
  | date => [1082]
  | time => [1083]
  | timestamp => [1114]
  | timestamptz => [1184]
  | uuid => [2950]
  | json => [114, 3802]

/-- Types of extensions whose values are text after a byte for the version. -/
def versionedTexts : List String := ["ltree", "lquery", "ltxtquery"]

/-- Types of extensions that take text. -/
def extensions : Kind → List String
  | text => "citext" :: versionedTexts
  | _ => []

def accepts (k : Kind) (t : ServerType) : Bool :=
  k.oids.contains t.oid || k.extensions.contains t.name

/-- The kind of a null under a tag, `none` if it is one of any kind. -/
def ofStandard? : Sql.Standard → Option Kind
  | .null => none
  | .boolean | .bit => some bool
  | .char | .nchar | .varchar | .longVarchar | .longNVarchar => some text
  | .tinyInt | .smallInt => some int2
  | .integer => some int4
  | .bigInt => some int8
  | .real => some float4
  | .float | .double => some float8
  | .decimal | .numeric => some numeric
  | .date => some date
  | .time => some time
  | .timestamp => some timestamp
  | .binary | .varBinary | .longVarBinary => some bytea

def ofTag? : Sql.Tag → Option Kind
  | .standard t => ofStandard? t
  | .other _ => none

end Kind

inductive Datum
  | bool (b : Bool)
  | text (s : String)
  | int2 (n : Int16)
  | int4 (n : Int32)
  | int8 (n : Int64)
  | float4 (x : Binary.Binary32)
  | float8 (x : Binary.Binary64)
  | numeric (d : Decimal)
  | bytea (bytes : List UInt8)
  | date (d : Calendar.Date)
  | time (t : Calendar.Time)
  | timestamp (t : Calendar.DateTime)
  | timestamptz (t : Calendar.DateTime)
  | uuid (u : Uuid)
  | json (j : Json)

namespace Datum

def kind : Datum → Kind
  | bool _ => .bool
  | text _ => .text
  | int2 _ => .int2
  | int4 _ => .int4
  | int8 _ => .int8
  | float4 _ => .float4
  | float8 _ => .float8
  | numeric _ => .numeric
  | bytea _ => .bytea
  | date _ => .date
  | time _ => .time
  | timestamp _ => .timestamp
  | timestamptz _ => .timestamptz
  | uuid _ => .uuid
  | json _ => .json

/-- There are no integers of one byte. -/
def ofTyped : Sql.TypedValue → Datum
  | .boolean b => bool b
  | .string s => text s
  | .byte n => int2 n.toInt16
  | .short n => int2 n
  | .int n => int4 n
  | .long n => int8 n
  | .float x => float4 x
  | .double x => float8 x
  | .decimal d => numeric d
  | .date d => date d
  | .time t => time t
  | .timestamp t => timestamp t
  | .bytes bytes => bytea bytes

def ofValue? : Value → Option Datum
  | .null => none
  | .bool b => some (bool b)
  | .int8 n => some (int2 n.toInt16)
  | .int16 n => some (int2 n)
  | .int32 n => some (int4 n)
  | .int64 n => some (int8 n)
  | .float32 x => some (float4 x)
  | .float64 x => some (float8 x)
  | .decimal d => some (numeric d)
  | .string s => some (text s)
  | .bytes bytes => some (bytea bytes)
  | .date d => some (date d)
  | .time t => some (time t)
  | .dateTime t => some (timestamp t)
  | .moment t => some (timestamptz t)
  | .uuid u => some (uuid u)
  | .json j => some (json j)

/-- Digits in base 10000, the highest first, none for zero. -/
def numericGroups (n : Nat) : List Nat :=
  if n = 0 then [] else numericGroups (n / 10000) ++ [n % 10000]
termination_by n
decreasing_by omega

/-- Groups of four digits after those for the whole part; zeros at the end of the fraction are left
out if there is a whole part. -/
def numericBytes (d : Decimal) : List UInt8 :=
  let fraction := (d.scale + 3) / 4
  let groups := numericGroups (d.coefficient * 10 ^ (fraction * 4 - d.scale))
  let whole := groups.length - fraction
  let shown :=
    if groups.length ≤ fraction then groups
    else groups.take whole ++ ((groups.drop whole).reverse.dropWhile (· == 0)).reverse
  let weight : Int := (groups.length : Int) - fraction - 1
  if d.coefficient = 0 then
    Binary.bigEndian 2 1 ++ Binary.bigEndian 2 0 ++ Binary.bigEndian 2 0 ++ Binary.bigEndian 2 0 ++
      Binary.bigEndian 2 0
  else
    Binary.bigEndian 2 shown.length ++ Binary.bigEndian 2 (Binary.twosComplement 2 weight) ++
      Binary.bigEndian 2 (if d.negative then 0x4000 else 0) ++ Binary.bigEndian 2 d.scale ++
      shown.flatMap (Binary.bigEndian 2)

/-- Days from 1970 to 2000, from which the server counts. -/
def epoch : Int := 10957

/-- Microseconds since midnight, a leap second counted on. -/
def timeMicros (t : Calendar.Time) : Int := t.seconds * 1000000 + t.nano / 1000

/-- Microseconds since 2000, rounded towards it. -/
def timestampMicros (t : Calendar.DateTime) : Int :=
  let seconds := (t.date.dayNumber - epoch) * 86400 + t.time.seconds
  (seconds * 1000000000 + t.time.nano).tdiv 1000

def signed (width : Nat) (i : Int) : List UInt8 :=
  Binary.bigEndian width (Binary.twosComplement width i)

/-- The bytes that the server is sent for a parameter of its type. -/
def encode (t : ServerType) : Datum → List UInt8
  | bool b => [if b then 1 else 0]
  | text s => (if Kind.versionedTexts.contains t.name then [1] else []) ++ Url.utf8Bytes s.toList
  | int2 n => signed 2 n.toInt
  | int4 n => signed 4 n.toInt
  | int8 n => signed 8 n.toInt
  | float4 x => Binary.bigEndian 4 x.bits.toNat
  | float8 x => Binary.bigEndian 8 x.bits.toNat
  | numeric d => numericBytes d
  | bytea bytes => bytes
  | date d => signed 4 (d.dayNumber - epoch)
  | time t => signed 8 (timeMicros t)
  | timestamp t => signed 8 (timestampMicros t)
  | timestamptz t => signed 8 (timestampMicros t)
  | uuid u => Binary.bigEndian 16 u.bits.toNat
  | json j => (if t.oid = 3802 then [1] else []) ++ Url.utf8Bytes (Json.chars j)

end Datum

/-- What is sent for a bound parameter. -/
inductive Argument
  | value (d : Datum)
  | null (k : Kind)
  /-- A null that every type takes. -/
  | anyNull

namespace Argument

def ofParam : Sql.Param → Argument
  | .null tag => ((Kind.ofTag? tag).map null).getD anyNull
  | .typed _ v => value (.ofTyped v)
  | .object v => ((Datum.ofValue? v).map value).getD anyNull

/-- A null is taken where the values of its kind are. -/
def accepts (t : ServerType) : Argument → Bool
  | value d => d.kind.accepts t
  | null k => k.accepts t
  | anyNull => true

/-- The bytes that are sent, none for a null. -/
def cell (t : ServerType) : Argument → Option (List UInt8)
  | value d => some (d.encode t)
  | null _ | anyNull => none

/-- The length of a parameter is sent in 31 bits. -/
def fits (t : ServerType) (a : Argument) : Bool := (a.cell t).all fun bytes => bytes.length < 2 ^ 31

end Argument

end BatchInsert.Postgres
