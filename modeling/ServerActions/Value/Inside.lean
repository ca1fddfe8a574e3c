import ServerActions.Value.Basic

/-!
# The parts of values

The items of a list and the entries of a mapping, each as a value of its own.  A list or a mapping
that holds itself is a part of its own parts, so that they never come to an end; what refers to it
inside a part is replaced by it as soon as the part is looked at.

## Main definitions

* `Value.settled` — a part with the whole in the place of what refers to it.
* `Value.items?`, `Value.fields?` — the items of a list or a set, and the entries of a mapping.
* `Value.same` — whether two values are written alike.
-/

namespace ServerActions

/-! ### Values that hold themselves -/

mutual
/-- A part of `whole` with `whole` in the place of what refers to it.  `depth` counts the lists and
mappings between the two. -/
def Value.settled (whole : Value) (depth : Nat) : Value → Value
  | .again level => if level = depth then whole else .again level
  | .list items => .list (settledItems whole (depth + 1) items)
  | .pair k v => .pair (Value.settled whole depth k) (Value.settled whole depth v)
  | .map fields => .map (settledFields whole (depth + 1) fields)
  | v => v
termination_by structural v => v

/-- Items with `whole` in the place of what refers to it. -/
def settledItems (whole : Value) (depth : Nat) : List Value → List Value
  | [] => []
  | v :: vs => Value.settled whole depth v :: settledItems whole depth vs
termination_by structural vs => vs

/-- Entries with `whole` in the place of what refers to it. -/
def settledFields (whole : Value) (depth : Nat) : List (Key × Value) → List (Key × Value)
  | [] => []
  | f :: fs => settledField whole depth f :: settledFields whole depth fs
termination_by structural fs => fs

/-- An entry with `whole` in the place of what refers to it. -/
def settledField (whole : Value) (depth : Nat) : Key × Value → Key × Value
  | (k, v) => (k, Value.settled whole depth v)
termination_by structural f => f
end

/-- The items of a list or a set. -/
def Value.items? (v : Value) : Option (List Value) :=
  match v with
  | .list items => some (items.map (Value.settled v 0))
  | .set members => some (members.map Key.toValue)
  | _ => none

/-- The items of a list; a set has no order in which they could be counted. -/
def Value.listItems? (v : Value) : Option (List Value) :=
  match v with
  | .list items => some (items.map (Value.settled v 0))
  | _ => none

/-- The entries of a mapping. -/
def Value.fields? (v : Value) : Option Fields :=
  match v with
  | .map fields => some (fields.map fun f => (f.1, Value.settled v 0 f.2))
  | _ => none

/-! ### Values written alike -/

mutual
/-- Whether two values are written alike. -/
def Value.same : Value → Value → Bool
  | .list items, .list others => sameItems items others
  | .pair k v, .pair k' v' => k.same k' && v.same v'
  | .map fields, .map others => sameFields fields others
  | .set members, .set others => members = others
  | .again level, .again other => level = other
  | v, w => v.key?.isSome && v.key? = w.key?
termination_by structural v => v

/-- Whether two lists have items written alike. -/
def sameItems : List Value → List Value → Bool
  | [], [] => true
  | v :: vs, w :: ws => v.same w && sameItems vs ws
  | _, _ => false
termination_by structural vs => vs

/-- Whether two mappings have entries written alike. -/
def sameFields : List (Key × Value) → List (Key × Value) → Bool
  | [], [] => true
  | f :: fs, g :: gs => sameField f g && sameFields fs gs
  | _, _ => false
termination_by structural fs => fs

/-- Whether two entries are written alike. -/
def sameField : Key × Value → Key × Value → Bool
  | (k, v), (k', v') => k = k' && v.same v'
termination_by structural f => f
end

end ServerActions
