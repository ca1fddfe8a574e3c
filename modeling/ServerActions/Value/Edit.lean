import ServerActions.Value.Basic

/-!
# Editing values

A part of a value that is replaced where it stands, found by the keys and the indices that lead to
it.

## Main definitions

* `Step`, `Route` — a step into a value, and the steps from the whole to a part.
* `EditFault` — why there is no part where the steps lead.
* `stepTo` — the step that a key makes in a value, and the part it leads to.
* `edit` — a value with one part replaced, and the route to that part.
-/

namespace ServerActions

/-- A step into a value: to the entry of a mapping, or to the item of a list. -/
inductive Step
  | entry (k : Key)
  | item (n : Nat)
  deriving DecidableEq, Repr

/-- The steps from the whole to a part. -/
abbrev Route := List Step

/-- Whether two steps lead to the same part. -/
def Step.same : Step → Step → Bool
  | .entry k, .entry k' => k.same k'
  | .item n, .item n' => n = n'
  | _, _ => false

/-- What a route adds to another that it begins with. -/
def Route.after? : Route → Route → Option Route
  | [], rest => some rest
  | s :: ss, t :: ts => if s.same t then Route.after? ss ts else none
  | _ :: _, [] => none

/-- Why there is no part where the steps lead. -/
inductive EditFault
  /-- A mapping has no such key. -/
  | noEntry
  /-- A list or a text has no such index, or there is no step at all. -/
  | noItem
  /-- The key is of the wrong kind, or there are no parts. -/
  | noStep
  deriving DecidableEq, Repr

/-- The index that a key is for something of some length; those below zero count from the end. -/
def indexIn (length : Nat) (k : Value) : Except EditFault Nat :=
  let within (n : Int) : Except EditFault Nat :=
    let n := if n < 0 then n + length else n
    if 0 ≤ n ∧ n < length then .ok n.toNat else .error .noItem
  match k with
  | .int n => within n
  | .bool b => within (if b then 1 else 0)
  | _ => .error .noStep

/-- The key of a mapping that a value is. -/
def keyFor (k : Value) : Except EditFault Key :=
  match k.key? with
  | some k => .ok k
  | none => .error .noStep

/-- The step that a key makes in a value, and the part it leads to.  A character of a text is a
part too. -/
def stepTo (k : Value) : Value → Except EditFault (Step × Value)
  | .map fs => do
    let k ← keyFor k
    match Fields.find? fs k with
    | some v => .ok (.entry k, v)
    | none => .error .noEntry
  | .list vs => do
    let n ← indexIn vs.length k
    return (.item n, vs.getD n .null)
  | .str s => do
    let n ← indexIn s.length k
    return (.item n, .str (String.ofList [s.toList.getD n ' ']))
  | _ => .error .noStep

/-- The value with a part replaced by `new` that is one step away: an entry, which may be new, or
an item. -/
def replaceAt (k new : Value) : Value → Except EditFault (Step × Value)
  | .map fs => do
    let k ← keyFor k
    return (.entry k, .map (Fields.insert fs k new))
  | .list vs => do
    let n ← indexIn vs.length k
    return (.item n, .list (vs.set n new))
  | _ => .error .noStep

/-- The value with a part put into the place of the one that a step leads to. -/
def putPart (part : Value) : Step → Value → Value
  | .entry k, .map fs => .map (Fields.insert fs k part)
  | .item n, .list vs => .list (vs.set n part)
  | _, v => v

/-- The value with the part replaced that keys lead to, and the route to that part. -/
def edit (new : Value) : List Value → Value → Except EditFault (Route × Value)
  | [], _ => .error .noItem
  | [k], v => do
    let (s, v) ← replaceAt k new v
    return ([s], v)
  | k :: ks, v => do
    let (s, part) ← stepTo k v
    let (route, part) ← edit new ks part
    return (s :: route, putPart part s v)

/-- The value with the part replaced that a route leads to. -/
def putAt (new : Value) : Route → Value → Value
  | [], _ => new
  | s :: route, v =>
    let part : Value := match s, v with
      | .entry k, .map fs => (Fields.find? fs k).getD .null
      | .item n, .list vs => vs.getD n .null
      | _, _ => .null
    putPart (putAt new route part) s v

end ServerActions
