import BatchInsert.Text.Numeral

/-!
# UUIDs

Read with or without hyphens, in braces or as a URN, in either case; written with hyphens in lower
case.
-/

namespace BatchInsert

structure Uuid where
  bits : BitVec 128
deriving DecidableEq

namespace Uuid

inductive ReadError
  | character (c : Char) (index : Nat)
  | simpleLength (length : Nat)
  | groupCount (count : Nat)
  | groupLength (group expected length : Nat)
deriving DecidableEq

def ReadError.message : ReadError → String
  | character c i => "invalid character: found `" ++ c.toString ++ "` at " ++ Text.decimal i
  | simpleLength n =>
    "invalid length: expected length 32 for simple format, found " ++ Text.decimal n
  | groupCount n => "invalid group count: expected 5, found " ++ Text.decimal n
  | groupLength g e n =>
    "invalid group length in group " ++ Text.decimal g ++ ": expected " ++ Text.decimal e ++
      ", found " ++ Text.decimal n

/-- Digits in the five groups of the hyphenated form. -/
def groups : List Nat := [8, 4, 4, 4, 12]

def splitGroups : List Nat → List Char → List (List Char)
  | [], _ => []
  | n :: ns, cs => cs.take n :: splitGroups ns (cs.drop n)

def text (u : Uuid) : String :=
  let digits := Text.padZeros 32 (Text.hexChars u.bits.toNat)
  String.intercalate "-" ((splitGroups groups digits).map String.ofList)

def ofDigits? (cs : List Char) : Option Uuid :=
  if cs.length = 32 then (Text.natural? 16 cs).map fun n => ⟨BitVec.ofNat 128 n⟩ else none

/-- The digits of a hyphenated form, the hyphens in their places. -/
def unhyphenate? : List Nat → List Char → Option (List Char)
  | [], _ => none
  | [n], cs => if cs.length = n then some cs else none
  | n :: ns, cs =>
    match cs.drop n with
    | '-' :: rest => (unhyphenate? ns rest).map (cs.take n ++ ·)
    | _ => none

def ofHyphenated? (cs : List Char) : Option Uuid := (unhyphenate? groups cs).bind ofDigits?

/-- The text inside the braces or after the URN's name, and where it starts. -/
def unwrap (cs : List Char) : Option (List Char × Nat) :=
  match cs with
  | '\x7b' :: rest =>
    if rest.getLast? == some '\x7d' then some (rest.dropLast, 1) else none
  | 'u' :: 'r' :: 'n' :: ':' :: 'u' :: 'u' :: 'i' :: 'd' :: ':' :: rest => some (rest, 9)
  | _ => none

/-- The first character that is neither a digit nor a hyphen, with its byte index. -/
def strayCharacter? (index : Nat) : List Char → Option (Char × Nat)
  | [] => none
  | c :: cs =>
    if c == '-' || (Text.digitValue? 16 c).isSome then strayCharacter? (index + c.utf8Size) cs
    else some (c, index)

def hyphenIndices (index : Nat) : List Char → List Nat
  | [] => []
  | c :: cs =>
    if c == '-' then index :: hyphenIndices (index + 1) cs else hyphenIndices (index + 1) cs

/-- The first group whose hyphen is out of place; the last group if all are in place. -/
def misplaced (total : Nat) : List (Nat × Nat × Nat) → List Nat → ReadError
  | (g, start, n) :: rest, i :: is =>
    if i = start + n then misplaced total rest is else .groupLength g n (i - start)
  | (g, start, n) :: _, [] => .groupLength g n (total - start)
  | [], _ => .groupCount 5

/-- What is wrong with a text that is no UUID; `total` is its length in bytes. -/
def diagnose (cs : List Char) (total : Nat) : ReadError :=
  let (body, start, simple) := match unwrap cs with
    | some (body, start) => (body, start, false)
    | none => (cs, 0, true)
  match strayCharacter? start body with
  | some (c, i) => .character c i
  | none =>
    let hyphens := hyphenIndices 0 body
    if hyphens.isEmpty && simple then .simpleLength total
    else if hyphens.length ≠ 4 then .groupCount (hyphens.length + 1)
    else misplaced total [(0, 0, 8), (1, 9, 4), (2, 14, 4), (3, 19, 4), (4, 24, 12)] hyphens

def ofText (s : String) : Except ReadError Uuid :=
  let cs := s.toList
  let found? := match unwrap cs with
    | some (body, _) => ofHyphenated? body
    | none => (ofDigits? cs).or (ofHyphenated? cs)
  match found? with
  | some u => .ok u
  | none => .error (diagnose cs s.utf8ByteSize)

end Uuid

end BatchInsert
