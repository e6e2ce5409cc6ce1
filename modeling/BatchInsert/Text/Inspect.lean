/-!
# Inspection

The one-line text of a record, a list or an optional value, as shown to a person who debugs.
-/

namespace BatchInsert.Text.Inspect

def option {α : Type} (item : α → String) : Option α → String
  | none => "None"
  | some a => "Some(" ++ item a ++ ")"

def list {α : Type} (item : α → String) (xs : List α) : String :=
  "[" ++ String.intercalate ", " (xs.map item) ++ "]"

/-- A record by name, its fields in order; `whole = false` leaves two dots for those not shown. -/
def record (name : String) (fields : List (String × String)) (whole : Bool) : String :=
  let shown := fields.map fun (field, value) => field ++ ": " ++ value
  let items := if whole then shown else shown ++ [".."]
  name ++ " \x7b " ++ String.intercalate ", " items ++ " \x7d"

end BatchInsert.Text.Inspect
