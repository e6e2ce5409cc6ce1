import BatchInsert.Binary.Shortest
import BatchInsert.Document.Mismatch
import BatchInsert.Yaml.Nodes

/-!
# What a scalar means

A plain scalar without a tag is null, a truth value, a number or a text, as it looks. A standard tag
asks for one of these, and every other scalar is a text.
-/

namespace BatchInsert.Yaml

open Document (Mismatch Found Scalar)

namespace Plain

def isNull (s : String) : Bool := s == "null" || s == "Null" || s == "NULL" || s == "~"

def bool? (s : String) : Option Bool :=
  if s == "true" || s == "True" || s == "TRUE" then some true
  else if s == "false" || s == "False" || s == "FALSE" then some false
  else none

/-- Without one sign that `p` accepts. -/
def unsigned (p : Char → Bool) : List Char → List Char
  | c :: cs => if p c then cs else c :: cs
  | [] => []

/-- A numeral of decimal digits with a leading zero is a text. -/
def hasLeadingZero (cs : List Char) : Bool :=
  match unsigned (fun c => c == '-' || c == '+') cs with
  | '0' :: d :: ds => (d :: ds).all Text.isDigit
  | _ => false

/-- Digits after `0x`, `0o` or `0b`. -/
def prefixed? : List Char → Option Nat
  | '0' :: 'x' :: cs => Text.natural? 16 cs
  | '0' :: 'o' :: cs => Text.natural? 8 cs
  | '0' :: 'b' :: cs => Text.natural? 2 cs
  | _ => none

/-- A natural below `bound`, a plus sign allowed. -/
def natural? (bound : Nat) (s : String) : Option Nat :=
  let cs := unsigned (· == '+') s.toList
  let n? := (prefixed? cs).orElse fun _ =>
    if hasLeadingZero s.toList then none else Text.natural? 10 cs
  n?.filter (· < bound)

/-- A negative integer of at least `-bound`, or zero with a minus sign. -/
def negative? (bound : Nat) (s : String) : Option Int :=
  match s.toList with
  | '-' :: cs =>
    let n? := (prefixed? cs).orElse fun _ =>
      if hasLeadingZero s.toList then none else Text.natural? 10 cs
    (n?.filter (· ≤ bound)).map fun n => -(n : Int)
  | _ => none

/-- An integer of up to 128 bits. -/
def integer? (s : String) : Option Found :=
  match natural? (2 ^ 64) s, negative? (2 ^ 63) s with
  | some n, _ => some (.scalar (.integer n))
  | none, some i => some (.scalar (.integer i))
  | none, none =>
    match natural? (2 ^ 128) s, negative? (2 ^ 127) s with
    | some n, _ => some (.wideInteger n)
    | none, some i => some (.wideInteger i)
    | none, none => none

/-- A power of ten after `e`; `none` if something else follows the digits. -/
def exponent? : List Char → Option Int
  | [] => some 0
  | c :: cs => if c == 'e' || c == 'E' then Text.signed? 10 cs else none

/-- `digits * 10 ^ e` as a number, unless it is beyond every finite one. -/
def finite? (negative : Bool) (digits : List Char) (e : Int) : Option Binary.Binary64 :=
  let digits := digits.dropWhile (· == '0')
  let leading := e + digits.length
  if digits.isEmpty || leading < -400 then some (.ofFields .double negative 0)
  else if 400 < leading then none
  else
    let n := (Text.digitsValue? 10 0 digits).getD 0
    let x := Binary.Number.ofRatio .double negative (n * 10 ^ e.toNat) (10 ^ (-e).toNat)
    if x.isFinite then some x else none

/-- Digits with a point anywhere among them and a power of ten. -/
def decimal? (cs : List Char) : Option Binary.Binary64 :=
  let negative := cs.head? == some '-'
  let cs := unsigned (fun c => c == '-' || c == '+') cs
  let whole := cs.takeWhile Text.isDigit
  let rest := cs.dropWhile Text.isDigit
  let afterPoint := if rest.head? == some '.' then rest.tail else []
  let fraction := afterPoint.takeWhile Text.isDigit
  let rest := if rest.head? == some '.' then afterPoint.dropWhile Text.isDigit else rest
  if whole.isEmpty && fraction.isEmpty then none
  else (exponent? rest).bind fun e => finite? negative (whole ++ fraction) (e - fraction.length)

/-- A real number; infinities and NaN begin with a point. -/
def real? (s : String) : Option Binary.Binary64 :=
  let cs := unsigned (· == '+') s.toList
  let signed := cs.length < s.length
  if signed && (cs.head? == some '+' || cs.head? == some '-') then none
  else
    let t := String.ofList cs
    if t == ".inf" || t == ".Inf" || t == ".INF" then some (.infinity .double false)
    else if s == "-.inf" || s == "-.Inf" || s == "-.INF" then some (.infinity .double true)
    else if s == ".nan" || s == ".NaN" || s == ".NAN" then some (.nan .double)
    else decimal? cs

/-- What a plain scalar looks like. -/
def found (s : String) : Found :=
  if s.isEmpty || isNull s then .scalar .null
  else
    match bool? s, integer? s with
    | some b, _ => .scalar (.bool b)
    | none, some i => i
    | none, none =>
      match if hasLeadingZero s.toList then none else real? s with
      | some x => .scalar (.real x)
      | none => .scalar (.string s)

end Plain

/-- A standard tag. -/
def standardTag (name : String) : String := "tag:yaml.org,2002:" ++ name

/-- The mismatch of a scalar that its tag does not fit. -/
def unfit (text expected : String) : Mismatch := .wrongValue (.scalar (.string text)) expected

/-- What a scalar holds. -/
def scalarFound (tag : Option String) (text : String) (style : Style) : Except Mismatch Found :=
  match tag with
  | none => .ok (if style = .plain then Plain.found text else .scalar (.string text))
  | some tag =>
    if tag == standardTag "bool" then
      match Plain.bool? text with
      | some b => .ok (.scalar (.bool b))
      | none => .error (unfit text "a boolean")
    else if tag == standardTag "int" then
      match Plain.integer? text with
      | some i => .ok i
      | none => .error (unfit text "an integer")
    else if tag == standardTag "float" then
      match Plain.real? text with
      | some x => .ok (.scalar (.real x))
      | none => .error (unfit text "a float")
    else if tag == standardTag "null" then
      if Plain.isNull text then .ok (.scalar .null) else .error (unfit text "null")
    else if tag.toList.head? == some '!' && style == .plain then .ok (Plain.found text)
    else .ok (.scalar (.string text))

/-- Null is called a unit value, and reals have every digit and a point. -/
def dialect : Document.Dialect := ⟨"unit value", Binary.Number.text .pointed⟩

end BatchInsert.Yaml
