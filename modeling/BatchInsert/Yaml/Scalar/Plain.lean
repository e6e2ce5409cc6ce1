import BatchInsert.Yaml.Scalar.Gap

/-!
# Plain scalars

Words and the gaps between them, up to a comment, a colon that ends a key, a document indicator, an
indicator of the surrounding flow collection, or a line that is not indented enough.
-/

namespace BatchInsert.Yaml.Plain

/-- Indicators that end a plain scalar in a flow collection. -/
def isFlowIndicator (c : Char) : Bool :=
  c == ',' || c == '[' || c == ']' || c == '\x7b' || c == '\x7d'

structure Text where
  chars : List Char
  /-- Whether a line break follows the scalar. -/
  broken : Bool
  cursor : Cursor

/-- The length of the word at the front, `none` where a flow collection has a stray colon after so
many characters. -/
def word (flow : Bool) : List Char → Nat × Bool
  | [] => (0, true)
  | c :: cs =>
    let followed := (cs.head?.map fun d => isFlowIndicator d || d == '?').getD false
    if isBlank c || isBreak c then (0, true)
    else if flow && c == ':' && followed then (0, false)
    else if (c == ':' && endsWord cs.head?) || (flow && isFlowIndicator c) then (0, true)
    else
      let (n, ok) := word flow cs
      (n + 1, ok)

/-- The words and gaps from the cursor on; `text` and `gap` are what stands before. -/
def read (flow : Bool) (indentation : Nat) (start : Mark) :
    Nat → List Char → Gap → Cursor → Except Fault Text
  | 0, text, gap, cur => .ok ⟨text, gap.broken, cur⟩
  | fuel + 1, text, gap, cur => do
    if cur.atDocumentIndicator || cur.isAt '#' then return ⟨text, gap.broken, cur⟩
    let (n, ok) := word flow cur.rest
    let after := cur.skipMany n
    if !ok then throw (after.fail .strayColon .plainScalar start)
    let (text, gap) :=
      if n = 0 then (text, gap) else (text ++ gap.text ++ cur.rest.take n, .empty)
    if (after.head.map fun c => isBlank c || isBreak c).getD false then
      let (gap, next) ← gap.scan indentation start after
      if !flow && next.mark.column < indentation then return ⟨text, gap.broken, next⟩
      read flow indentation start fuel text gap next
    else return ⟨text, gap.broken, after⟩

/-- The plain scalar at the cursor; in a block collection its lines are indented by
`indentation`. -/
def scalar (flow : Bool) (indentation : Nat) (cur : Cursor) : Except Fault Text :=
  read flow indentation cur.mark (cur.rest.length + 1) [] .empty cur

end BatchInsert.Yaml.Plain
