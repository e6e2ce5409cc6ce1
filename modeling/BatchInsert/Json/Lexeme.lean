import BatchInsert.Json.Cursor

/-!
# Scalars in a JSON text

Strings with their escapes, numbers and the three literals, each read off the front of a cursor.
A number without a point or a power of ten is an integer if it fits 64 bits; the digits of any
other beyond the 64 bits of a significand count as zeros, and its power of ten is applied by one
multiplication or division at a time.
-/

namespace BatchInsert.Json.Cursor

/-- Four hexadecimal digits. -/
def hex4 (cur : Cursor) : Except ReadError (Nat × Cursor) :=
  let bytes := (String.ofList (cur.rest.take 4)).utf8ByteSize
  let next := cur.skipBytes 4 cur.rest
  if bytes < 4 then .error (next.fail .eofInString)
  else
    match Text.natural? 16 (cur.rest.take 4) with
    | some n => .ok (n, next)
    | none => .error (next.fail .invalidEscape)

/-- The character `c`, required after the first half of a surrogate pair. -/
def surrogateMark (c : Char) (cur : Cursor) : Except ReadError Cursor :=
  match cur.rest with
  | [] => .error (cur.fail .eofInString)
  | d :: cs =>
    if c == d then .ok (cur.after d cs)
    else .error ((cur.skipBytes 1 cur.rest).fail .endOfHexEscape)

/-- The rest of an escape after `\u`. -/
def unicodeEscape (cur : Cursor) : Except ReadError (Char × Cursor) := do
  let (n, cur) ← cur.hex4
  if 0xdc00 ≤ n && n ≤ 0xdfff then throw (cur.fail .loneSurrogate)
  if n < 0xd800 || 0xdbff < n then return (Char.ofNat n, cur)
  let cur ← cur.surrogateMark '\\'
  let cur ← cur.surrogateMark 'u'
  let (low, cur) ← cur.hex4
  if low < 0xdc00 || 0xdfff < low then throw (cur.fail .loneSurrogate)
  return (Char.ofNat ((n - 0xd800) * 0x400 + (low - 0xdc00) + 0x10000), cur)

/-- The character that a one-letter escape stands for. -/
def shortEscape? (c : Char) : Option Char :=
  if c == '"' || c == '\\' || c == '/' then some c
  else if c == 'b' then some (Char.ofNat 8)
  else if c == 'f' then some (Char.ofNat 12)
  else if c == 'n' then some '\n'
  else if c == 'r' then some '\r'
  else if c == 't' then some '\t'
  else none

/-- The rest of an escape after its backslash. -/
def escape (cur : Cursor) : Except ReadError (Char × Cursor) :=
  match cur.rest with
  | [] => .error (cur.fail .eofInString)
  | c :: cs =>
    if c == 'u' then (cur.after c cs).unicodeEscape
    else
      match shortEscape? c with
      | some d => .ok (d, cur.after c cs)
      | none => .error ((cur.skipBytes 1 cur.rest).fail .invalidEscape)

/-- The rest of a string after its opening quote; `acc` is what has been read, backwards. -/
def stringFrom (acc : List Char) : Nat → Cursor → Except ReadError (String × Cursor)
  | 0, cur => .error (cur.fail .eofInString)
  | fuel + 1, cur =>
    match cur.rest with
    | [] => .error (cur.fail .eofInString)
    | c :: cs =>
      let next := cur.after c cs
      if c == '"' then .ok (String.ofList acc.reverse, next)
      else if c == '\\' then do
        let (d, next) ← next.escape
        stringFrom (d :: acc) fuel next
      else if c.toNat < 0x20 then .error (next.fail .controlCharacter)
      else stringFrom (c :: acc) fuel next

def string (cur : Cursor) : Except ReadError (String × Cursor) :=
  stringFrom [] (cur.rest.length + 1) cur

/-- The run of digits at the cursor. -/
def digits (cur : Cursor) : List Nat × Cursor :=
  ((cur.rest.takeWhile Text.isDigit).map fun c => c.toNat - 48, cur.skipWhile Text.isDigit)

/-- Digits appended to a significand as long as it fits 64 bits, and how many they are. -/
def absorb (significand : Nat) : List Nat → Nat × Nat
  | [] => (significand, 0)
  | d :: ds =>
    if significand * 10 + d < 2 ^ 64 then
      let (v, n) := absorb (significand * 10 + d) ds
      (v, n + 1)
    else (significand, 0)

/-- `x * 10 ^ exponent` in steps of at most 308 decimal orders; `none` beyond the largest number. -/
def scale? : Nat → Binary.Binary64 → Int → Option Binary.Binary64
  | 0, x, _ => some x
  | fuel + 1, x, exponent =>
    let power (n : Nat) := Binary.Number.ofRatio .double false (10 ^ n) 1
    if exponent.natAbs ≤ 308 then
      if 0 ≤ exponent then
        let y := x.mul (power exponent.natAbs)
        if y.isFinite then some y else none
      else some (x.div (power exponent.natAbs))
    else if x.isZero then some x
    else if 0 ≤ exponent then none
    else scale? fuel (x.div (power 308)) (exponent + 308)

/-- The real number with the given parts, unless it is out of range. -/
def real (cur : Cursor) (negative : Bool) (significand : Nat) (exponent : Int) :
    Except ReadError (Number × Cursor) :=
  match scale? 4 (Binary.Number.ofRatio .double false significand 1) exponent with
  | some x => .ok (.real (if negative then x.neg else x), cur)
  | none => .error (cur.fail .numberOutOfRange)

/-- The digits of a power of ten; past 32 bits it is as good as infinite. -/
def powerDigits (negative : Bool) (significand : Nat) (base : Int) (down : Bool) (acc : Nat) :
    List Char → Cursor → Except ReadError (Number × Cursor)
  | [], cur => real cur negative significand (if down then base - acc else base + acc)
  | c :: cs, cur =>
    if Text.isDigit c then
      let acc := acc * 10 + (c.toNat - 48)
      let cur := cur.after c cs
      if acc < 2 ^ 31 then powerDigits negative significand base down acc cs cur
      else if significand ≠ 0 && !down then .error (cur.fail .numberOutOfRange)
      else .ok (.real (Binary.Number.ofFields .double negative 0), cur.skipWhile Text.isDigit)
    else real cur negative significand (if down then base - acc else base + acc)

/-- The rest of a power of ten after its `e`. -/
def power (cur : Cursor) (negative : Bool) (significand : Nat) (base : Int) :
    Except ReadError (Number × Cursor) :=
  let (down, cur) := match cur.rest with
    | '+' :: cs => (false, cur.after '+' cs)
    | '-' :: cs => (true, cur.after '-' cs)
    | _ => (false, cur)
  match cur.rest with
  | [] => .error (cur.fail .eofInValue)
  | c :: _ =>
    if Text.isDigit c then powerDigits negative significand base down 0 cur.rest cur
    else .error ((cur.skipBytes 1 cur.rest).fail .invalidNumber)

/-- A real number from its power of ten on, which may be missing. -/
def realTail (cur : Cursor) (negative : Bool) (significand : Nat) (exponent : Int) :
    Except ReadError (Number × Cursor) :=
  match cur.rest with
  | c :: cs =>
    if c == 'e' || c == 'E' then (cur.after c cs).power negative significand exponent
    else real cur negative significand exponent
  | [] => real cur negative significand exponent

/-- A number after its sign and its digits before the point. -/
def numberTail (cur : Cursor) (negative : Bool) (whole : List Nat) :
    Except ReadError (Number × Cursor) :=
  let (significand, kept) := absorb 0 whole
  let dropped := whole.length - kept
  match cur.rest with
  | '.' :: cs =>
    let cur := cur.after '.' cs
    let (places, next) := cur.digits
    if places.isEmpty then
      .error (cur.failNext (if cur.rest.isEmpty then .eofInValue else .invalidNumber))
    else
      let (significand, n) := absorb significand places
      next.realTail negative significand ((dropped : Int) - n)
  | cs =>
    let mark := match cs with
      | c :: _ => c == 'e' || c == 'E'
      | [] => false
    if mark || dropped ≠ 0 then cur.realTail negative significand dropped
    else if !negative then .ok (.integer significand, cur)
    else if significand = 0 || 2 ^ 63 < significand then real cur true significand 0
    else .ok (.integer (-(significand : Int)), cur)

/-- A number at its sign or first digit. -/
def number (cur : Cursor) : Except ReadError (Number × Cursor) :=
  let (negative, cur) := match cur.rest with
    | '-' :: cs => (true, cur.after '-' cs)
    | _ => (false, cur)
  match cur.rest with
  | [] => .error (cur.fail .eofInValue)
  | '0' :: cs =>
    let next := cur.after '0' cs
    match cs with
    | c :: _ =>
      if Text.isDigit c then .error (next.failNext .invalidNumber)
      else next.numberTail negative [0]
    | [] => next.numberTail negative [0]
  | c :: _ =>
    if Text.isDigit c then
      let (whole, next) := cur.digits
      next.numberTail negative whole
    else .error ((cur.skipBytes 1 cur.rest).fail .invalidNumber)

/-- The characters of a literal. -/
def literal : List Char → Cursor → Except ReadError Cursor
  | [], cur => .ok cur
  | c :: cs, cur =>
    match cur.rest with
    | [] => .error (cur.fail .eofInValue)
    | d :: ds =>
      if c == d then literal cs (cur.after d ds)
      else .error ((cur.skipBytes 1 cur.rest).fail .expectedIdent)

end Cursor

open Document (Scalar)

/-- The first lexeme of a value; of an array or an object the bracket is only looked at. -/
inductive Lexeme
  | scalar (s : Scalar)
  | array
  | object

def Lexeme.found : Lexeme → Document.Found
  | scalar s => .scalar s
  | array => .sequence
  | object => .map

def Number.scalar : Number → Scalar
  | integer i => .integer i
  | real x => .real x

def Cursor.lexeme (cur : Cursor) : Except ReadError (Lexeme × Cursor) :=
  let cur := cur.skipBlanks
  match cur.rest with
  | [] => .error (cur.failNext .eofInValue)
  | c :: cs =>
    let literal (word : String) (s : Scalar) : Except ReadError (Lexeme × Cursor) := do
      return (.scalar s, ← cur.literal word.toList)
    if c == 'n' then literal "null" .null
    else if c == 't' then literal "true" (.bool true)
    else if c == 'f' then literal "false" (.bool false)
    else if c == '"' then do
      let (s, cur) ← (cur.after c cs).string
      return (.scalar (.string s), cur)
    else if c == '-' || Text.isDigit c then do
      let (n, cur) ← cur.number
      return (.scalar n.scalar, cur)
    else if c == '[' then .ok (.array, cur)
    else if c == '\x7b' then .ok (.object, cur)
    else .error (cur.failNext .expectedValue)

end BatchInsert.Json
