import BatchInsert.Database.Backend
import BatchInsert.Failure
import BatchInsert.Record

/-!
# Binding records

The field at index `i` of a record is bound at position `i + 1`, under the tag at index `i` of the
declared ones. A field for which there is no tag, or whose tag has no kind of values, is bound as it
is, and that is logged.
-/

namespace BatchInsert.Binding

open Database (Backend Error Reply)
open Sql (Param Tag TypedValue)

/-- The parameter for a value under a tag. A bare code counts as the type that it stands for. -/
def param (position : Nat) (v : Value) : Option Tag → Except WriteFailure Param
  | none => .ok (.object v)
  | some tag =>
    let tag := tag.normalize
    if v.isNull then .ok (.null tag)
    else
      match tag with
      | .standard .null => .ok (.null tag)
      | .other _ => .ok (.object v)
      | .standard _ =>
        match TypedValue.ofValue tag v with
        | .ok tv => .ok (.typed tag tv)
        | .error e => .error (.mismatch position tag v.kind e)

/-- What is logged of a value under a declared tag. -/
def tagNotice (position : Nat) (v : Value) (tag : Tag) : Option Log.Event :=
  match tag.normalize with
  | .other c => if v.isNull then none else some (.untyped position (some (.other c)) v)
  | .standard _ => none

/-- The tag declared for the field at an index. -/
def declared? (types : Option (List Tag)) (index : Nat) : Option Tag :=
  types.bind fun tags => tags[index]?

/-- What is logged of the field at an index. -/
def notice (types : Option (List Tag)) (index : Nat) (v : Value) : Option Log.Event :=
  match types with
  | none => some (.undeclared (index + 1) v)
  | some tags =>
    match tags[index]? with
    | some tag => tagNotice (index + 1) v tag
    | none => some (.untyped (index + 1) none v)

variable {ω κ τ : Type}

/-- The fields from `index` on, up to the first that cannot be bound. -/
def bindFrom (b : Backend ω κ τ) (types : Option (List Tag)) (s : τ) (w : ω) (index : Nat) :
    List Value → Reply WriteFailure (τ × ω) Unit
  | [] => .ok () (s, w)
  | v :: vs =>
    let logged := (notice types index v).toList.map Log.plain
    match param (index + 1) v (declared? types index) with
    | .error f => (Reply.fail f (s, w)).after logged
    | .ok p =>
      let reply := b.bind (index + 1) p s w
      match reply.result with
      | .error e => ⟨.error (.bind (index + 1) e), reply.state, logged ++ reply.log⟩
      | .ok () =>
        (bindFrom b types reply.state.1 reply.state.2 (index + 1) vs).after (logged ++ reply.log)

/-- All fields of a record as the current row of a statement. -/
def record (b : Backend ω κ τ) (types : Option (List Tag)) (r : Record) (s : τ) (w : ω) :
    Reply WriteFailure (τ × ω) Unit :=
  bindFrom b types s w 0 r.fields

end BatchInsert.Binding
