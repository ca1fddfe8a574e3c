import ServerActions.TypeScript.TypeExpr

/-!
# The meaning of type expressions

A type expression stands for a set of JSON values.  The names of their own that the generated types
use are those of texts, numbers and truth values and of the absent value, and two that stand for all
values: one where a schema says nothing, and one for a schema within itself.

## Main definitions

* `PartOf` — a type is a part of another.
* `Datum` — a JSON value.
* `Belongs` — a value belongs to a type.
-/

namespace ServerActions.TypeScript

/-! ### Parts of a type -/

/-- A type is a part of another, or the same. -/
inductive PartOf (u : TypeExpr) : TypeExpr → Prop
  | refl : PartOf u u
  | array {t : TypeExpr} (h : PartOf u t) : PartOf u (.array t)
  | map {t : TypeExpr} (h : PartOf u t) : PartOf u (.map t)
  | record {ms : List (Member TypeExpr)} {m : Member TypeExpr} (hm : m ∈ ms)
      (h : PartOf u m.type) : PartOf u (.record ms)
  | union {ts : List TypeExpr} {t : TypeExpr} (ht : t ∈ ts) (h : PartOf u t) :
      PartOf u (.union ts)
  | inter {ts : List TypeExpr} {t : TypeExpr} (ht : t ∈ ts) (h : PartOf u t) :
      PartOf u (.inter ts)

section

variable {t : TypeExpr} {ts : List TypeExpr} {ms : List (Member TypeExpr)} {name name' : String}

theorem partOf_prim : PartOf (.prim name) (.prim name') ↔ name = name' := by
  constructor
  · intro h
    cases h
    rfl
  · rintro rfl
    exact .refl

theorem partOf_array : PartOf (.prim name) (.array t) ↔ PartOf (.prim name) t := by
  constructor
  · intro h
    cases h with
    | array h => exact h
  · exact .array

theorem partOf_map : PartOf (.prim name) (.map t) ↔ PartOf (.prim name) t := by
  constructor
  · intro h
    cases h with
    | map h => exact h
  · exact .map

theorem partOf_record :
    PartOf (.prim name) (.record ms) ↔ ∃ t ∈ ms.map Member.type, PartOf (.prim name) t := by
  constructor
  · intro h
    cases h with
    | record hm h => exact ⟨_, List.mem_map_of_mem hm, h⟩
  · rintro ⟨t, ht, h⟩
    obtain ⟨m, hm, rfl⟩ := List.mem_map.mp ht
    exact .record hm h

theorem partOf_union : PartOf (.prim name) (.union ts) ↔ ∃ t ∈ ts, PartOf (.prim name) t := by
  constructor
  · intro h
    cases h with
    | union ht h => exact ⟨_, ht, h⟩
  · rintro ⟨t, ht, h⟩
    exact .union ht h

theorem partOf_inter : PartOf (.prim name) (.inter ts) ↔ ∃ t ∈ ts, PartOf (.prim name) t := by
  constructor
  · intro h
    cases h with
    | inter ht h => exact ⟨_, ht, h⟩
  · rintro ⟨t, ht, h⟩
    exact .inter ht h

end

/-! ### Values -/

/-- A JSON value. -/
inductive Datum
  | null
  | bool (b : Bool)
  | number (q : Rat)
  | str (s : String)
  | list (items : List Datum)
  | map (fields : List (String × Datum))

/-- The values of a type with a name of its own. -/
def OfPrim (name : String) (v : Datum) : Prop :=
  name = "any" ∨ name = "unknown" ∨ (name = "null" ∧ v = .null) ∨
    (name = "boolean" ∧ ∃ b, v = .bool b) ∨ (name = "number" ∧ ∃ q, v = .number q) ∨
    (name = "string" ∧ ∃ s, v = .str s)

/-- A value belongs to a type.  An object may have more properties than a record names. -/
inductive Belongs : Datum → TypeExpr → Prop
  | prim {v : Datum} {name : String} (h : OfPrim name v) : Belongs v (.prim name)
  | array {items : List Datum} {t : TypeExpr} (h : ∀ w ∈ items, Belongs w t) :
      Belongs (.list items) (.array t)
  | map {fields : List (String × Datum)} {t : TypeExpr} (h : ∀ f ∈ fields, Belongs f.2 t) :
      Belongs (.map fields) (.map t)
  | record {fields : List (String × Datum)} {ms : List (Member TypeExpr)}
      (h : ∀ m ∈ ms, ∀ w, fields.lookup m.name = some w → Belongs w m.type)
      (hreq : ∀ m ∈ ms, m.optional = false → (fields.lookup m.name).isSome) :
      Belongs (.map fields) (.record ms)
  | union {v : Datum} {ts : List TypeExpr} {t : TypeExpr} (ht : t ∈ ts) (h : Belongs v t) :
      Belongs v (.union ts)
  | inter {v : Datum} {ts : List TypeExpr} (h : ∀ t ∈ ts, Belongs v t) : Belongs v (.inter ts)

section

variable {v : Datum} {t : TypeExpr} {ts : List TypeExpr} {ms : List (Member TypeExpr)}
  {name : String}

theorem belongs_prim : Belongs v (.prim name) ↔ OfPrim name v := by
  constructor
  · intro h
    cases h with
    | prim h => exact h
  · exact .prim

@[simp] theorem belongs_any : Belongs v .any :=
  .prim (Or.inl rfl)

@[simp] theorem belongs_circular : Belongs v .circular :=
  .prim (Or.inr (Or.inl rfl))

theorem belongs_boolean : Belongs v .boolean ↔ ∃ b, v = .bool b := by
  simp [TypeExpr.boolean, belongs_prim, OfPrim]

theorem belongs_number : Belongs v .number ↔ ∃ q, v = .number q := by
  simp [TypeExpr.number, belongs_prim, OfPrim]

theorem belongs_string : Belongs v .string ↔ ∃ s, v = .str s := by
  simp [TypeExpr.string, belongs_prim, OfPrim]

theorem belongs_array :
    Belongs v (.array t) ↔ ∃ items, v = .list items ∧ ∀ w ∈ items, Belongs w t := by
  constructor
  · intro h
    cases h with
    | array h => exact ⟨_, rfl, h⟩
  · rintro ⟨items, rfl, h⟩
    exact .array h

theorem belongs_map :
    Belongs v (.map t) ↔ ∃ fields, v = .map fields ∧ ∀ f ∈ fields, Belongs f.2 t := by
  constructor
  · intro h
    cases h with
    | map h => exact ⟨_, rfl, h⟩
  · rintro ⟨fields, rfl, h⟩
    exact .map h

theorem belongs_record :
    Belongs v (.record ms) ↔ ∃ fields, v = .map fields ∧ ∀ m ∈ ms,
      (∀ w, fields.lookup m.name = some w → Belongs w m.type) ∧
        (m.optional = false → (fields.lookup m.name).isSome) := by
  constructor
  · intro h
    cases h with
    | record h hreq => exact ⟨_, rfl, fun m hm => ⟨h m hm, hreq m hm⟩⟩
  · rintro ⟨fields, rfl, h⟩
    exact .record (fun m hm => (h m hm).1) fun m hm => (h m hm).2

theorem belongs_union : Belongs v (.union ts) ↔ ∃ t ∈ ts, Belongs v t := by
  constructor
  · intro h
    cases h with
    | union ht h => exact ⟨_, ht, h⟩
  · rintro ⟨t, ht, h⟩
    exact .union ht h

theorem belongs_inter : Belongs v (.inter ts) ↔ ∀ t ∈ ts, Belongs v t := by
  constructor
  · intro h
    cases h with
    | inter h => exact h
  · exact .inter

end

end ServerActions.TypeScript
