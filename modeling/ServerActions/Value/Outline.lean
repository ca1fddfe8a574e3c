import ServerActions.Value.Basic

/-!
# Outlines

What was read from a value, laid out again as a tree that says which parts are models.

## Main definitions

* `Outline` — a value, a list, a mapping or a model with its fields and further entries.
* `Outline.plain` — the value that an outline stands for: of a model first the fields, then the
  further entries without those that have no value.
-/

namespace ServerActions

/-- The parts of what was read. -/
inductive Outline
  | value (v : Value)
  | list (items : List Outline)
  | mapping (entries : List (String × Outline))
  /-- A model with the fields that have a value and the entries that are no fields. -/
  | model (name : String) (fields : List (String × Outline)) (extras : List (String × Value))
  deriving Repr, Inhabited

namespace Outline

/-- A text. -/
def text (s : String) : Outline := .value (.str s)

/-- A truth value. -/
def truth (b : Bool) : Outline := .value (.bool b)

/-- A list of texts. -/
def texts (ss : List String) : Outline := .value (.list (ss.map .str))

/-- A mapping of any values. -/
def named (entries : List (String × Value)) : Outline :=
  .value (.map (entries.map fun e => (.str e.1, e.2)))

/-- A field, unless it has no value. -/
def field {α : Type} (name : String) (outline : α → Outline) : Option α → List (String × Outline)
  | some a => [(name, outline a)]
  | none => []

mutual
/-- The value that an outline stands for. -/
def plain : Outline → Value
  | .value v => v
  | .list items => .list (plainItems items)
  | .mapping entries => .map (plainEntries entries)
  | .model _ fields extras =>
    .map (plainEntries fields
      ++ (extras.filter fun e => !e.2.isNull).map fun e => (.str e.1, e.2))
termination_by structural o => o

/-- The values that the members of a list stand for. -/
def plainItems : List Outline → List Value
  | [] => []
  | o :: os => plain o :: plainItems os
termination_by structural os => os

/-- The entries of a mapping with the values that they stand for. -/
def plainEntries : List (String × Outline) → Fields
  | [] => []
  | (name, o) :: es => (.str name, plain o) :: plainEntries es
termination_by structural es => es
end

/-- The entries of the mapping that an outline stands for, if it stands for one. -/
def plainFields (o : Outline) : Fields :=
  match o.plain with
  | .map fs => fs
  | _ => []

end Outline

end ServerActions
