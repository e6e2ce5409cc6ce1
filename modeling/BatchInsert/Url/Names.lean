/-!
# Domain names

To bring a domain name into ASCII takes the tables of Unicode. They are no part of this library,
which leaves the reading of names to a class and relies on four facts about it, all of them in the
URL standard of the web.
-/

namespace BatchInsert.Url

/-- The controls, the blank and the marks of a URL. -/
def isForbidden (c : Char) : Bool :=
  c.toNat ≤ 0x20 || c.toNat == 0x7f || "#%/:<>?@[\\]^|".toList.contains c

/-- A reading of domain names. -/
class Names where
  /-- The name in ASCII, none for what is no name. -/
  toAscii? : List Char → Option (List Char)

/-- What is relied on. -/
class LawfulNames [Names] : Prop where
  /-- A name in ASCII is read as it is. -/
  again {cs name : List Char} : Names.toAscii? cs = some name → Names.toAscii? name = some name
  allowed {cs name : List Char} : Names.toAscii? cs = some name → ∀ c ∈ name, isForbidden c = false
  /-- Without a label in code, ASCII is brought into lower case. -/
  lower {cs : List Char} : cs ≠ [] → (∀ c ∈ cs, c.toNat < 128 ∧ isForbidden c = false) →
    ¬"xn--".toList <:+: cs.map Char.toLower → Names.toAscii? cs = some (cs.map Char.toLower)
  /-- No other character takes an `@` up, so it would be left in the name. -/
  at_refused {cs : List Char} : '@' ∈ cs → Names.toAscii? cs = none

end BatchInsert.Url
