import ServerActions.Reference.Resolver
import ServerActions.Value.Edit

/-!
# Editing a description

A description that is edited while the schemas found in it are remembered.  The keywords of a schema
are copies, but the values that no keyword accounts for are the ones of the description, so that an
edit inside of them shows in the schemas remembered too.

## Main definitions

* `isShared` — whether a schema has the very lists and mappings of the description at a route.
* `Kept` — a schema that is remembered, with the value it was read from.
* `Editing` — a description and the schemas remembered.
* `Editing.schema`, `Editing.edit` — a schema that is looked up, and an edit.
-/

namespace ServerActions.Reference

open Description (Node referenceKey keywordNames)

/-! ### Shared parts -/

/-- The keywords whose value holds further nodes one step below. -/
def nodeKeywords : List String := ["properties", "allOf", "oneOf", "anyOf"]

/-- The keywords whose value holds arbitrary values one step below. -/
def valueKeywords : List String := ["enum", "additionalProperties"]

/-- The part of a value one step away. -/
def partAt? (v : Value) : Step → Option Value
  | .entry k => v.fields?.bind fun fs => fs.find? k
  | .item n => v.listItems?.bind fun vs => vs[n]?

/-- Whether the node that a value describes has the very list or mapping at a route, and no copy. -/
def isShared (v : Value) : Route → Bool
  | .entry (.str name) :: rest =>
    if (v.fields?.getD []).has referenceKey then name ≠ referenceKey
    else if !keywordNames.contains name then true
    else if valueKeywords.contains name then !rest.isEmpty
    else match rest, partAt? v (.entry (.str name)) with
      | rest, some part =>
        if name = "items" then isShared part rest
        else match rest with
          | s :: rest =>
            if nodeKeywords.contains name then
              match partAt? part s with
              | some inner => isShared inner rest
              | none => false
            else false
          | [] => false
      | _, none => false
  | _ => false

/-! ### Schemas remembered -/

/-- A schema that is remembered. -/
structure Kept where
  ref : String
  /-- Where the schema was found. -/
  route : Route
  /-- The value that the schema is read from, as the schema still shares it. -/
  value : Value
  /-- The parts that are no longer those of the description. -/
  lost : List Route
  deriving Repr

/-- The node that is remembered. -/
def Kept.node? (k : Kept) : Option Node :=
  (Node.read k.value).toOption

/-- What is remembered after the part at a route of the description was replaced by `new`. -/
def Kept.edited (k : Kept) (at' : Route) (new : Value) : Kept :=
  match k.route.after? at' with
  | some [] => { k with lost := [[]] }
  | some rest =>
    let around := rest.dropLast
    if k.lost.any fun l => (l.after? around).isSome then k
    else if isShared k.value around then { k with value := putAt new rest k.value }
    else { k with lost := rest :: k.lost }
  | none => if (at'.after? k.route).isSome then { k with lost := [[]] } else k

/-- The route that the steps of a pointer take. -/
def routeOf (v : Value) : List String → Option (Route × Value)
  | [] => some ([], v)
  | step :: rest => do
    let inner ← (stepInto step v).toOption.join
    let s : Step ← match v.fields? with
      | some fs =>
        if fs.has step then some (.entry (.str step))
        else (indexOf? step).toOption.join.map fun n => .entry (.int (n : Nat))
      | none => (indexOf? step).toOption.join.map .item
    let (route, found) ← routeOf inner rest
    return (s :: route, found)

/-- What is remembered of a schema that was found. -/
def Kept.ofRef? (root : Fields) (ref : String) : Option Kept := do
  let (route, v) ← routeOf (.map root) (steps (ref.toList.drop 2))
  return ⟨ref, route, v, []⟩

/-! ### Sessions -/

/-- A description that is edited, and the schemas remembered. -/
structure Editing where
  root : Fields
  kept : List Kept
  deriving Repr

/-- The schemas remembered. -/
def Editing.memo (e : Editing) : Memo :=
  e.kept.filterMap fun k => k.node?.map (k.ref, ·)

/-- The schema that a reference points to, which is remembered. -/
def Editing.schema (e : Editing) (ref : String) : Except Failure Node × Editing :=
  let (r, s) := Reference.schema e.root ref ⟨e.memo, []⟩
  let found := if s.memo.length = e.memo.length then [] else (Kept.ofRef? e.root ref).toList
  (r, { e with kept := e.kept ++ found })

/-- The description with the part replaced that keys lead to. -/
def Editing.edit (e : Editing) (at' : List Value) (new : Value) : Except EditFault Editing := do
  let (route, v) ← ServerActions.edit new at' (.map e.root)
  return ⟨v.fields?.getD [], e.kept.map fun k => k.edited route new⟩

/-- The description with nothing remembered. -/
def Editing.forget (e : Editing) : Editing :=
  { e with kept := [] }

end ServerActions.Reference
