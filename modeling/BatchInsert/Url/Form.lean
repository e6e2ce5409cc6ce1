import BatchInsert.Text.Lossy
import BatchInsert.Url.Host

/-!
# Forms in a query

Pairs of a name and a value, joined by `&`, in which a plus sign stands for a blank.
-/

namespace BatchInsert.Url

def formText (cs : List Char) : String :=
  Text.lossyText (percentDecode (cs.map fun c => if c == '+' then ' ' else c))

/-- The pairs of a query; one without `=` has an empty value. -/
def formPairs (query : List Char) : List (String × String) :=
  ((splitAt '&' query).filter (!·.isEmpty)).map fun part =>
    let name := part.takeWhile (· != '=')
    (formText name, formText (part.drop (name.length + 1)))

end BatchInsert.Url
