import BatchInsert.Json.Basic

/-!
# Writing JSON

The compact form: no blanks, and only quotes, backslashes and control characters escaped.
-/

namespace BatchInsert.Json

def escape (c : Char) : List Char :=
  if c == '"' then ['\\', '"']
  else if c == '\\' then ['\\', '\\']
  else if 0x20 ≤ c.toNat then [c]
  else if c.toNat == 8 then ['\\', 'b']
  else if c.toNat == 9 then ['\\', 't']
  else if c.toNat == 10 then ['\\', 'n']
  else if c.toNat == 12 then ['\\', 'f']
  else if c.toNat == 13 then ['\\', 'r']
  else '\\' :: 'u' :: Text.padZeros 4 (Text.hexChars c.toNat)

def stringChars (s : String) : List Char := '"' :: s.toList.flatMap escape ++ ['"']

def boolChars (b : Bool) : List Char := if b then "true".toList else "false".toList

def numberChars : Number → List Char
  | .integer i => (Text.integer i).toList
  | .real x => (realText style64 x).toList

/-- `parts` with commas between them. -/
def commaSeparated : List (List Char) → List Char
  | [] => []
  | [p] => p
  | p :: q :: ps => p ++ ',' :: commaSeparated (q :: ps)

def arrayChars (items : List (List Char)) : List Char := '[' :: commaSeparated items ++ [']']

def objectChars (members : List (String × List Char)) : List Char :=
  '\x7b' :: commaSeparated (members.map fun (k, v) => stringChars k ++ ':' :: v) ++ ['\x7d']

mutual

def chars : Json → List Char
  | null => "null".toList
  | bool b => boolChars b
  | number n => numberChars n
  | string s => stringChars s
  | array items => arrayChars (itemChars items)
  | object members => objectChars (memberChars members)

def itemChars : List Json → List (List Char)
  | [] => []
  | x :: xs => chars x :: itemChars xs

def memberChars : List (String × Json) → List (String × List Char)
  | [] => []
  | (k, x) :: xs => (k, chars x) :: memberChars xs

end

def text (j : Json) : String := String.ofList j.chars

end BatchInsert.Json
