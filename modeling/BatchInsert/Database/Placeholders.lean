import BatchInsert.Database.Error
import BatchInsert.Ordered
import BatchInsert.Sql.Param

/-!
# Placeholders

The placeholders of a prepared statement, numbered from one, and the parameters bound to them so
far. A row can be taken once there is a parameter for each.
-/

namespace BatchInsert.Database

structure Placeholders where
  sql : String
  count : Nat
  /-- Parameters in ascending order of their positions. -/
  bound : List (Nat × Sql.Param)

namespace Placeholders

def fresh (sql : String) (count : Nat) : Placeholders := ⟨sql, count, []⟩

def outOfRange (position count : Nat) : String :=
  "parameter index " ++ Text.decimal position ++ " out of range 1..=" ++ Text.decimal count

def incomplete (bound count : Nat) : String :=
  Text.decimal bound ++ " of " ++ Text.decimal count ++ " parameters bound"

/-- With a parameter at a position, in place of the one that is there. -/
def bind (position : Nat) (p : Sql.Param) (x : Placeholders) : Except Error Placeholders :=
  if position = 0 ∨ x.count < position then
    .error (.query (outOfRange position x.count) (some x.sql) [])
  else .ok { x with bound := Ordered.insert position p x.bound }

def clear (x : Placeholders) : Placeholders := { x with bound := [] }

/-- The bound parameters as a row, and the placeholders without them. -/
def takeRow (x : Placeholders) : Except Error (List Sql.Param × Placeholders) :=
  if x.bound.length = x.count then .ok (x.bound.map Prod.snd, x.clear)
  else .error (.query (incomplete x.bound.length x.count) (some x.sql) [])

end Placeholders

end BatchInsert.Database
