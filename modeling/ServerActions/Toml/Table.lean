import ServerActions.Value.Basic

/-!
# Tables of a TOML document

The tables that the statements of a document build up.  A table is declared at most once, a value is
given at most once, and what is written out as a value stays as it is.

## Main definitions

* `Item`, `Items` — a value, a table that may grow, or a list of tables whose last one may grow.
* `Origin` — how a table came to be, which decides whether it may be declared or grow.
* `Items.assign`, `Items.declare`, `Items.append` — what the three kinds of statements do.
* `Items.toFields` — the tables as a mapping.
-/

namespace ServerActions.Toml

/-- How a table came to be. -/
inductive Origin
  /-- By a declaration of a table inside it. -/
  | implied
  /-- By a dotted key in the section of a number. -/
  | dotted (number : Nat)
  /-- By its own declaration. -/
  | declared
  deriving DecidableEq, Repr

/-- What stands under a key. -/
inductive Item
  | value (v : Value)
  | table (origin : Origin) (items : List (String × Item))
  | tables (earlier : List Value) (last : List (String × Item))
  deriving Repr, Inhabited

/-- The items of a table. -/
abbrev Items := List (String × Item)

mutual
/-- What stands under a key as a value. -/
def Item.toValue : Item → Value
  | .value v => v
  | .table _ items => .map (fieldsOf items)
  | .tables earlier last => .list (earlier ++ [.map (fieldsOf last)])
termination_by structural i => i

/-- Items as the entries of a mapping. -/
def fieldsOf : List (String × Item) → Fields
  | [] => []
  | e :: es => fieldOf e :: fieldsOf es
termination_by structural es => es

/-- An item as the entry of a mapping. -/
def fieldOf : String × Item → Key × Value
  | (name, i) => (.str name, i.toValue)
termination_by structural e => e
end

/-- The items as a mapping. -/
def Items.toFields (items : Items) : Fields := fieldsOf items

/-- The items with `i` under a name: in the place of the one there, or at the end. -/
def Items.set (items : Items) (name : String) (i : Item) : Items :=
  match items with
  | [] => [(name, i)]
  | (n, old) :: rest => if n = name then (n, i) :: rest else (n, old) :: Items.set rest name i

/-! ### Going down -/

/-- A step down to a key: the items found there and what stands there when they have changed. -/
abbrev Descent := Option Item → Option (Items × (Items → Item))

/-- The step through a key of a declaration. -/
def throughHeader : Descent
  | none => some ([], .table .implied)
  | some (.table origin items) => some (items, .table origin)
  | some (.tables earlier last) => some (last, .tables earlier)
  | some (.value _) => none

/-- The step through a key of a dotted key, which must not lead into a declared table or one of
another section. -/
def throughDotted (number : Nat) : Descent
  | none => some ([], .table (.dotted number))
  | some (.table .implied items) => some (items, .table (.dotted number))
  | some (.table (.dotted n) items) =>
    if n = number then some (items, .table (.dotted number)) else none
  | _ => none

/-- The items after a change at the end of a way down. -/
def Items.change (f : Items → Option Items) : List (String × Descent) → Items → Option Items
  | [], items => f items
  | (name, step) :: rest, items => do
    let (inner, close) ← step (items.lookup name)
    let inner ← Items.change f rest inner
    return items.set name (close inner)

/-! ### Statements -/

/-- A value under a name that is new. -/
def Items.add (name : String) (v : Value) (items : Items) : Option Items :=
  if (items.lookup name).isSome then none else some (items ++ [(name, .value v)])

/-- A value under a key of the section of a number, whose declaration has the key `header`. -/
def Items.assign (items : Items) (number : Nat) (header key : List String) (v : Value) :
    Option Items :=
  match key.getLast? with
  | none => none
  | some name =>
    items.change (Items.add name v)
      (header.map (·, throughHeader) ++ key.dropLast.map (·, throughDotted number))

/-- The table under a name, declared for the first time. -/
def Items.declareHere (name : String) (items : Items) : Option Items :=
  match items.lookup name with
  | none => some (items.set name (.table .declared []))
  | some (.table .implied inner) => some (items.set name (.table .declared inner))
  | _ => none

/-- The table under a key, declared for the first time. -/
def Items.declare (items : Items) (key : List String) : Option Items :=
  match key.getLast? with
  | none => none
  | some name => items.change (Items.declareHere name) (key.dropLast.map (·, throughHeader))

/-- One more table in the list under a name. -/
def Items.appendHere (name : String) (items : Items) : Option Items :=
  match items.lookup name with
  | none => some (items.set name (.tables [] []))
  | some (.tables earlier last) =>
    some (items.set name (.tables (earlier ++ [.map (Items.toFields last)]) []))
  | _ => none

/-- One more table in the list under a key. -/
def Items.append (items : Items) (key : List String) : Option Items :=
  match key.getLast? with
  | none => none
  | some name => items.change (Items.appendHere name) (key.dropLast.map (·, throughHeader))

end ServerActions.Toml
