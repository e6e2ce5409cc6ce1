import BatchInsert.Text.Numeral
import BatchInsert.Text.Printable

/-!
# Quoted text

A text between double quotes in which every character that does not print on its own is an
escape: `\n` and its like, or `\u` and the code point in braces.
-/

namespace BatchInsert.Text

def escape (c : Char) : List Char :=
  if c == '"' then ['\\', '"']
  else if c == '\\' then ['\\', '\\']
  else if c == '\n' then ['\\', 'n']
  else if c == '\r' then ['\\', 'r']
  else if c == '\t' then ['\\', 't']
  else if c.toNat == 0 then ['\\', '0']
  else if isExtender c || !isPrintable c then
    "\\u\x7b".toList ++ hexChars c.toNat ++ ['\x7d']
  else [c]

def quoted (s : String) : String :=
  String.ofList ('"' :: s.toList.flatMap escape ++ ['"'])

end BatchInsert.Text
