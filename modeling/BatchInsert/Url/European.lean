import BatchInsert.Text.Blank
import BatchInsert.Url.Host
import BatchInsert.Url.Punycode

/-!
# Names in the alphabets of Europe

A reading of domain names that does without tables. It knows the capitals of the alphabets of Europe
and the wide forms of ASCII, and takes the letters of all others as they are.
-/

namespace BatchInsert.Url.European

/-- Lower case, and the narrow form of wide ASCII. -/
def fold (c : Char) : Char :=
  let n := c.toNat
  if n < 128 then c.toLower
  else if 0xff01 ≤ n && n ≤ 0xff5e then (Char.ofNat (n - 0xfee0)).toLower
  else if n == 0x3002 then '.'
  else if (0xc0 ≤ n && n ≤ 0xde && n != 0xd7) || (0x391 ≤ n && n ≤ 0x3a9) ||
      (0x410 ≤ n && n ≤ 0x42f) then Char.ofNat (n + 32)
  else if 0x400 ≤ n && n ≤ 0x40f then Char.ofNat (n + 80)
  else if n % 2 == 0 && ((0x100 ≤ n && n ≤ 0x12e) || (0x132 ≤ n && n ≤ 0x136) ||
      (0x14a ≤ n && n ≤ 0x176)) then Char.ofNat (n + 1)
  else if n % 2 == 1 && ((0x139 ≤ n && n ≤ 0x147) || (0x179 ≤ n && n ≤ 0x17d)) then
    Char.ofNat (n + 1)
  else c

/-- Characters that leave no trace: the soft hyphen, spaces without a width, selectors of a
variant. -/
def isIgnored (c : Char) : Bool :=
  let n := c.toNat
  n == 0xad || n == 0x34f || n == 0x200b || n == 0x2060 || n == 0x2064 || n == 0xfeff ||
    (0xfe00 ≤ n && n ≤ 0xfe0f)

/-- What is forbidden in ASCII, and beyond it controls, blanks, joiners, marks of direction, private
characters and those that are none. -/
def isRefused (c : Char) : Bool :=
  let n := c.toNat
  isForbidden c || (0x80 ≤ n && n ≤ 0x9f) || Text.isBlank c ||
    (0x200c ≤ n && n ≤ 0x200f) || (0x202a ≤ n && n ≤ 0x202e) || (0x2066 ≤ n && n ≤ 0x206f) ||
    (0xe000 ≤ n && n ≤ 0xf8ff) || (0xfff9 ≤ n && n ≤ 0xffff)

def normal (cs : List Char) : List Char := (cs.filter (!isIgnored ·)).map fold

def isAscii (cs : List Char) : Bool := cs.all (·.toNat < 128)

/-- One label in ASCII. What is coded needs to be, and is in its normal form. -/
def label? (cs : List Char) : Option (List Char) :=
  match cs with
  | 'x' :: 'n' :: '-' :: '-' :: coded =>
    (Punycode.decode? coded).bind fun plain =>
      if isAscii plain || plain.any isRefused || normal plain != plain then none
      else if Punycode.encode plain == coded then some cs
      else none
  | _ => some (if isAscii cs then cs else "xn--".toList ++ Punycode.encode cs)

def toAscii? (cs : List Char) : Option (List Char) :=
  let name := normal cs
  if name.any isRefused then none
  else ((splitAt '.' name).mapM label?).map (joinWith ['.'])

scoped instance : Names := ⟨toAscii?⟩

end BatchInsert.Url.European
