import BatchInsert.Settings.Basic
import BatchInsert.Writer

/-!
# Builders

A writer in the making: the draft of its plan and the registry in which it is to look for its
driver. Parts are set in any order and as often as one likes, and nothing is checked before the
builder is finished.
-/

namespace BatchInsert

open Database (Driver Reply)

structure Builder (δ : Type) where
  draft : Draft
  registry : Option (Registry δ)

namespace Builder

inductive Part
  | driver
  | url
  | username
  | password
  | statement
  | batchSize
  | columnTypes
  | registry
deriving DecidableEq, Repr

/-- What a part is set to. -/
abbrev Part.Value (δ : Type) : Part → Type
  | driver | url | username | password | statement => String
  | batchSize => Nat
  | columnTypes => List Sql.Tag
  | registry => Registry δ

/-- A call that sets a part. -/
structure Setter (δ : Type) where
  part : Part
  value : part.Value δ

variable {δ ω κ τ : Type}

def empty : Builder δ := ⟨.empty, none⟩

def ofSettings (s : Settings) : Builder δ := ⟨s.draft, none⟩

def set (b : Builder δ) : Setter δ → Builder δ
  | ⟨.driver, s⟩ => { b with draft.driver := some s }
  | ⟨.url, s⟩ => { b with draft.url := some s }
  | ⟨.username, s⟩ => { b with draft.username := some s }
  | ⟨.password, s⟩ => { b with draft.password := some s }
  | ⟨.statement, s⟩ => { b with draft.statement := some s }
  | ⟨.batchSize, n⟩ => { b with draft.batchSize := some n }
  | ⟨.columnTypes, types⟩ => { b with draft.columnTypes := some types }
  | ⟨.registry, r⟩ => { b with registry := some r }

def setAll (b : Builder δ) (calls : List (Setter δ)) : Builder δ := calls.foldl set b

/-- The writer, not yet open. It looks for its driver in `standard` if it was given no registry. -/
def finish (standard : Registry (Driver ω κ)) (b : Builder (Driver ω κ)) :
    Reply Failure (Builder (Driver ω κ)) (Writer ω κ τ) :=
  match b.draft.finish with
  | .error problem => .fail (.configuration problem.message) b
  | .ok plan =>
    ⟨.ok (.ofPlan plan (b.registry.getD standard)), b, b.draft.notices.map Log.plain⟩

end Builder

end BatchInsert
