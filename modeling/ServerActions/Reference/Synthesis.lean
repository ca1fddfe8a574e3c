import ServerActions.Reference.Resolver
import ServerActions.TypeScript.TypeExpr

/-!
# The types of schemas

The type expression for a schema, with references followed.  A reference met again while it is being
followed becomes the type that stands in for a schema within itself, so that the work ends.

## Main definitions

* `typeWith` — the type of a node, when the type of every reference in it is known.
* `typeOfRef` — the type of a reference, given the references that are being followed.
* `typeOf` — the type of a node.
-/

namespace ServerActions.Reference

open Description (Node Keywords TypeKeyword)
open TypeScript (TypeExpr Member)

/-! ### The references of a node -/

mutual
/-- The targets of the references in a node. -/
def nodeRefs : Node → List String
  | .reference r => [r.target]
  | .schema _ items properties allOf oneOf anyOf _ =>
    itemRefs items ++ propertyRefs properties ++ memberRefs allOf ++ memberRefs oneOf
      ++ memberRefs anyOf
termination_by structural n => n

/-- The targets of the references in the node of items. -/
def itemRefs : Option Node → List String
  | some n => nodeRefs n
  | none => []
termination_by structural n => n

/-- The targets of the references in the nodes of properties. -/
def propertyRefs : Option (List (String × Node)) → List String
  | some ns => namedRefs ns
  | none => []
termination_by structural ns => ns

/-- The targets of the references in nodes with names. -/
def namedRefs : List (String × Node) → List String
  | [] => []
  | (_, n) :: ns => nodeRefs n ++ namedRefs ns
termination_by structural ns => ns

/-- The targets of the references in the members of a composition. -/
def memberRefs : Option (List Node) → List String
  | some ns => listRefs ns
  | none => []
termination_by structural ns => ns

/-- The targets of the references in nodes. -/
def listRefs : List Node → List String
  | [] => []
  | n :: ns => nodeRefs n ++ listRefs ns
termination_by structural ns => ns
end

/-! ### Types -/

/-- The type of a schema whose keyword `type` names something else than lists and objects. -/
def scalarType (name : String) : TypeExpr :=
  if name = "string" then .string
  else if name = "integer" ∨ name = "number" then .number
  else if name = "boolean" then .boolean
  else .any

/-- Several types put together; one type stands for itself. -/
def composed (combine : List TypeExpr → TypeExpr) : List TypeExpr → TypeExpr
  | [t] => t
  | ts => combine ts

mutual
/-- The type of a node.  `follow` gives the types of references, and `compositions` says whether the
composition keywords are looked at. -/
def typeWith (follow : String → Run TypeExpr) (compositions : Bool) : Node → Run TypeExpr
  | .reference r => follow r.target
  | .schema k items properties allOf oneOf anyOf _ => do
    if compositions then
      if let some ts ← membersWith follow compositions oneOf then return composed .union ts
      if let some ts ← membersWith follow compositions anyOf then return composed .union ts
      if let some ts ← membersWith follow compositions allOf then return composed .inter ts
    match k.type with
    | some (.one name) =>
      if name = "array" then return .array (← itemsWith follow compositions items)
      else if name = "object" then
        propertiesWith follow compositions (k.required.getD []) properties
      else return scalarType name
    | _ => return .any
termination_by structural n => n

/-- The types of the members of a composition, if it has any. -/
def membersWith (follow : String → Run TypeExpr) (compositions : Bool) :
    Option (List Node) → Run (Option (List TypeExpr))
  | none => return none
  | some ns => do
    let ts ← typesWith follow compositions ns
    return if ts.isEmpty then none else some ts
termination_by structural ns => ns

/-- The types of nodes. -/
def typesWith (follow : String → Run TypeExpr) (compositions : Bool) :
    List Node → Run (List TypeExpr)
  | [] => return []
  | n :: ns => do
    let t ← typeWith follow compositions n
    return t :: (← typesWith follow compositions ns)
termination_by structural ns => ns

/-- The type of the elements of a list. -/
def itemsWith (follow : String → Run TypeExpr) (compositions : Bool) :
    Option Node → Run TypeExpr
  | none => return .any
  | some n => typeWith follow compositions n
termination_by structural n => n

/-- The type of an object: a record of its properties, or an open mapping where none are
declared. -/
def propertiesWith (follow : String → Run TypeExpr) (compositions : Bool) (required : List String) :
    Option (List (String × Node)) → Run TypeExpr
  | none => return .map .any
  | some ns => return .record (← namedWith follow compositions required ns)
termination_by structural ns => ns

/-- The properties of a record; those that are not required are optional. -/
def namedWith (follow : String → Run TypeExpr) (compositions : Bool) (required : List String) :
    List (String × Node) → Run (List (Member TypeExpr))
  | [] => return []
  | (name, n) :: ns => do
    let t ← typeWith follow compositions n
    return ⟨name, t, !required.contains name⟩ :: (← namedWith follow compositions required ns)
termination_by structural ns => ns
end

/-- The remark on a reference that is met again while it is being followed. -/
def circularNotice (ref : String) : Notice :=
  ⟨.debug, .schemas,
    "Circular reference " ++ ref ++ ", substituting " ++ TypeExpr.circular.text⟩

/-- The type of a reference that is met again while it is being followed. -/
def cut (ref : String) : Run TypeExpr := do
  Run.note (circularNotice ref)
  return .circular

/-- The type of a reference, when those in `following` are being followed.  Each level follows one
more of the references there are, of which `bound` are left. -/
def typeOfRef (root : Fields) (compositions : Bool) : Nat → List String → String → Run TypeExpr
  | 0, _, ref => cut ref
  | bound + 1, following, ref => do
    if ref ∈ following then cut ref
    else
      let n ← schema root ref
      typeWith (typeOfRef root compositions bound (ref :: following)) compositions n

/-- A bound on the references that can be followed one inside the other: those in a node, in the
schemas remembered and in the document. -/
def refBound (root : Fields) (memo : Memo) (n : Node) : Nat :=
  (nodeRefs n).length + (memo.flatMap fun m => nodeRefs m.2).length + (refsInFields root).length

/-- The type of a node. -/
def typeOf (root : Fields) (compositions : Bool) (n : Node) : Run TypeExpr := fun s =>
  typeWith (typeOfRef root compositions (refBound root s.memo n) []) compositions n s

/-- The type of a node that may be absent. -/
def typeOf? (root : Fields) (compositions : Bool) : Option Node → Run TypeExpr
  | none => return .any
  | some n => typeOf root compositions n

end ServerActions.Reference
