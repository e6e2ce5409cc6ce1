/-!
# Bytes as text

UTF-8 in which a broken sequence, as far as it goes, reads as one replacement character.
-/

namespace BatchInsert.Text

/-- What a leading byte promises: further bytes, the range of the next, and its own bits. -/
structure Lead where
  further : Nat
  low : Nat
  high : Nat
  bits : Nat

def lead? (b : Nat) : Option Lead :=
  if b < 0x80 then some ⟨0, 0, 0, b⟩
  else if 0xC2 ≤ b && b ≤ 0xDF then some ⟨1, 0x80, 0xBF, b - 0xC0⟩
  else if b == 0xE0 then some ⟨2, 0xA0, 0xBF, 0⟩
  else if b == 0xED then some ⟨2, 0x80, 0x9F, 13⟩
  else if 0xE1 ≤ b && b ≤ 0xEF then some ⟨2, 0x80, 0xBF, b - 0xE0⟩
  else if b == 0xF0 then some ⟨3, 0x90, 0xBF, 0⟩
  else if 0xF1 ≤ b && b ≤ 0xF3 then some ⟨3, 0x80, 0xBF, b - 0xF0⟩
  else if b == 0xF4 then some ⟨3, 0x80, 0x8F, 4⟩
  else none

/-- The code after `further` more bytes, the next between `low` and `high`; how many bytes there
were, and no code if they break off. -/
def continuation : Nat → Nat → Nat → Nat → List UInt8 → Nat × Option Nat
  | 0, _, _, code, _ => (0, some code)
  | _ + 1, _, _, _, [] => (0, none)
  | further + 1, low, high, code, b :: bytes =>
    if low ≤ b.toNat && b.toNat ≤ high then
      let (n, code?) := continuation further 0x80 0xBF (code * 64 + b.toNat % 64) bytes
      (n + 1, code?)
    else (0, none)

def lossyChars : Nat → List UInt8 → List Char
  | 0, _ => []
  | _, [] => []
  | fuel + 1, b :: bytes =>
    match lead? b.toNat with
    | none => '\ufffd' :: lossyChars fuel bytes
    | some l =>
      let (n, code?) := continuation l.further l.low l.high l.bits bytes
      (code?.map Char.ofNat).getD '\ufffd' :: lossyChars fuel (bytes.drop n)

def lossyText (bytes : List UInt8) : String := String.ofList (lossyChars bytes.length bytes)

end BatchInsert.Text
