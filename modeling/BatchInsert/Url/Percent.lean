import BatchInsert.Text.Numeral

/-!
# Percent-encoding

Characters that a part of a URL cannot hold are written as their UTF-8 bytes, each as a percent
sign and two digits. Every part has its own set of characters to encode; characters outside ASCII
and controls are in all of them.
-/

namespace BatchInsert.Url

/-- The ASCII characters that are encoded besides controls. -/
abbrev EncodeSet := Char → Bool

namespace EncodeSet

def controls : EncodeSet := fun _ => false

def fragment : EncodeSet := fun c =>
  c == ' ' || c == '"' || c == '<' || c == '>' || c == Char.ofNat 0x60

def path : EncodeSet := fun c => fragment c || c == '#' || c == '?' || c == '\x7b' || c == '\x7d'

def userinfo : EncodeSet := fun c =>
  path c || c == '/' || c == ':' || c == ';' || c == '=' || c == '@' || c == '[' || c == '\\' ||
    c == ']' || c == '^' || c == '|'

def query : EncodeSet := fun c => c == ' ' || c == '"' || c == '#' || c == '<' || c == '>'

/-- Queries of special schemes have no apostrophes either. -/
def specialQuery : EncodeSet := fun c => query c || c == Char.ofNat 0x27

end EncodeSet

def upperHex (d : Nat) : Char := (Text.digitChar d).toUpper

def encodeByte (b : UInt8) : List Char := ['%', upperHex (b.toNat / 16), upperHex (b.toNat % 16)]

def encodeChar (set : EncodeSet) (c : Char) : List Char :=
  if c.toNat < 0x20 || 0x7f ≤ c.toNat || set c then
    (String.utf8EncodeChar c).flatMap encodeByte
  else [c]

def percentEncode (set : EncodeSet) (cs : List Char) : List Char := cs.flatMap (encodeChar set)

def utf8Bytes (cs : List Char) : List UInt8 := cs.flatMap String.utf8EncodeChar

/-- The bytes of a text with its encoded ones decoded; a percent sign without two digits stays. -/
def percentDecode : List Char → List UInt8
  | [] => []
  | '%' :: h :: l :: cs =>
    match Text.digitValue? 16 h, Text.digitValue? 16 l with
    | some a, some b => UInt8.ofNat (a * 16 + b) :: percentDecode cs
    | _, _ => utf8Bytes ['%'] ++ percentDecode (h :: l :: cs)
  | c :: cs => utf8Bytes [c] ++ percentDecode cs

/-- The text that bytes are the UTF-8 form of. -/
def utf8Text? (bytes : List UInt8) : Option (List Char) :=
  (String.fromUTF8? ⟨bytes.toArray⟩).map String.toList

end BatchInsert.Url
