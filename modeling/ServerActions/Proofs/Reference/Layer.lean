import Mathlib.Tactic.SplitIfs
import ServerActions.Reference.Synthesis

/-!
# What the synthesis looks at in a schema

The type of a schema is put together from the types of a few of the nodes inside of it, and which
those are depends on its keywords alone.  A layer names them: the keywords that are looked at, with
the nodes under them.  Everything below about types follows the layers of a node and not its
keywords.

## Main definitions

* `Layer`, `layer` — what is looked at in a schema.
* `Layer.parts`, `Layer.assemble` — the nodes that are looked into, and the type put together from
  their types.
* `layer?`, `children` — the same for a node, and the nodes that are looked into in it.

## Main results

* `node_induction` — induction on a node along its children.
* `typeWith_of_layer?` — the type of a schema is assembled from those of its children.
-/

namespace ServerActions.Reference

open Description (Node Keywords Extras)
open TypeScript (TypeExpr Member)

/-! ### Layers -/

/-- What is looked at in a schema. -/
inductive Layer
  /-- Nothing inside of it: its type is known. -/
  | leaf (t : TypeExpr)
  /-- The items of a list. -/
  | array (element : Node)
  /-- The properties of an object, of which some are required. -/
  | record (required : List String) (properties : List (String × Node))
  /-- The members of a composition with one alternative after the other. -/
  | union (members : List Node)
  /-- The members of a composition that hold all at once. -/
  | inter (members : List Node)

/-- The first composition keyword with members. -/
def composition? (allOf oneOf anyOf : Option (List Node)) : Option Layer :=
  match oneOf, anyOf, allOf with
  | some (m :: ms), _, _ => some (.union (m :: ms))
  | _, some (m :: ms), _ => some (.union (m :: ms))
  | _, _, some (m :: ms) => some (.inter (m :: ms))
  | _, _, _ => none

/-- What the keyword `type` says to look at. -/
def typed (k : Keywords) (items : Option Node) (properties : Option (List (String × Node))) :
    Layer :=
  match k.type with
  | some (.one name) =>
    if name = "array" then items.elim (.leaf (.array .any)) .array
    else if name = "object" then
      properties.elim (.leaf (.map .any)) (.record (k.required.getD []))
    else .leaf (scalarType name)
  | _ => .leaf .any

/-- What is looked at in a schema: with `compositions` a composition that has members goes before
the keyword `type`. -/
def layer (compositions : Bool) (k : Keywords) (items : Option Node)
    (properties : Option (List (String × Node))) (allOf oneOf anyOf : Option (List Node)) : Layer :=
  (if compositions then composition? allOf oneOf anyOf else none).getD (typed k items properties)

/-- The nodes that are looked into. -/
def Layer.parts : Layer → List Node
  | .leaf _ => []
  | .array n => [n]
  | .record _ ps => ps.map Prod.snd
  | .union ms => ms
  | .inter ms => ms

/-- The type of a property of a record. -/
def member (required : List String) (p : String × Node) (t : TypeExpr) : Member TypeExpr :=
  ⟨p.1, t, !required.contains p.1⟩

/-- The type put together from those of the parts. -/
def Layer.assemble : Layer → List TypeExpr → TypeExpr
  | .leaf t, _ => t
  | .array _, ts => .array (ts.headD .any)
  | .record required ps, ts => .record (List.zipWith (member required) ps ts)
  | .union _, ts => composed .union ts
  | .inter _, ts => composed .inter ts

/-- What is looked at in a node that is no reference. -/
def layer? (compositions : Bool) : Node → Option Layer
  | .reference _ => none
  | .schema k items properties allOf oneOf anyOf _ =>
    some (layer compositions k items properties allOf oneOf anyOf)

/-- The nodes that are looked into in a node; what a reference points to is not among them. -/
def children (compositions : Bool) (n : Node) : List Node :=
  (layer? compositions n).elim [] Layer.parts

/-! ### Where the parts come from -/

/-- The nodes directly under the keywords of a schema. -/
def keywordNodes (items : Option Node) (properties : Option (List (String × Node)))
    (allOf oneOf anyOf : Option (List Node)) : List Node :=
  items.toList ++ (properties.getD []).map Prod.snd ++ allOf.getD [] ++ oneOf.getD []
    ++ anyOf.getD []

/-- A composition keyword without a first member has none. -/
theorem getD_eq_nil {ms : Option (List Node)} (h : ∀ m rest, ms = some (m :: rest) → False) :
    ms.getD [] = [] := by
  rcases ms with _ | _ | ⟨m, rest⟩
  · rfl
  · rfl
  · exact absurd rfl (h m rest)

/-- The composition is that of the first keyword with members, and those before it have none. -/
theorem composition?_cases (allOf oneOf anyOf : Option (List Node)) :
    (∃ m ms, oneOf = some (m :: ms) ∧
        composition? allOf oneOf anyOf = some (.union (m :: ms))) ∨
      (oneOf.getD [] = [] ∧ ∃ m ms, anyOf = some (m :: ms) ∧
        composition? allOf oneOf anyOf = some (.union (m :: ms))) ∨
      (oneOf.getD [] = [] ∧ anyOf.getD [] = [] ∧ ∃ m ms, allOf = some (m :: ms) ∧
        composition? allOf oneOf anyOf = some (.inter (m :: ms))) ∨
      (oneOf.getD [] = [] ∧ anyOf.getD [] = [] ∧ allOf.getD [] = [] ∧
        composition? allOf oneOf anyOf = none) := by
  unfold composition?
  split
  · next m ms => exact Or.inl ⟨m, ms, rfl, rfl⟩
  · next m ms hone => exact Or.inr (Or.inl ⟨getD_eq_nil hone, m, ms, rfl, rfl⟩)
  · next m ms hone hany =>
    exact Or.inr (Or.inr (Or.inl ⟨getD_eq_nil hone, getD_eq_nil hany, m, ms, rfl, rfl⟩))
  · next hone hany hall =>
    exact Or.inr (Or.inr (Or.inr
      ⟨getD_eq_nil hone, getD_eq_nil hany, getD_eq_nil hall, rfl⟩))

theorem composition?_parts {allOf oneOf anyOf : Option (List Node)} {l : Layer}
    (h : composition? allOf oneOf anyOf = some l) :
    ∀ m ∈ l.parts, m ∈ allOf.getD [] ∨ m ∈ oneOf.getD [] ∨ m ∈ anyOf.getD [] := by
  intro m hm
  rcases composition?_cases allOf oneOf anyOf with
    ⟨_, _, rfl, heq⟩ | ⟨-, _, _, rfl, heq⟩ | ⟨-, -, _, _, rfl, heq⟩ | ⟨-, -, -, heq⟩
  · cases heq.symm.trans h
    exact Or.inr (Or.inl hm)
  · cases heq.symm.trans h
    exact Or.inr (Or.inr hm)
  · cases heq.symm.trans h
    exact Or.inl hm
  · cases heq.symm.trans h

theorem getD_of_composition?_eq_none {allOf oneOf anyOf : Option (List Node)}
    (h : composition? allOf oneOf anyOf = none) :
    oneOf.getD [] = [] ∧ anyOf.getD [] = [] ∧ allOf.getD [] = [] := by
  rcases composition?_cases allOf oneOf anyOf with
    ⟨_, _, -, heq⟩ | ⟨-, _, _, -, heq⟩ | ⟨-, -, _, _, -, heq⟩ | ⟨hone, hany, hall, -⟩
  · cases heq.symm.trans h
  · cases heq.symm.trans h
  · cases heq.symm.trans h
  · exact ⟨hone, hany, hall⟩

/-- Where there is a composition, something in it is looked into. -/
theorem composition?_ne_leaf {allOf oneOf anyOf : Option (List Node)} {t : TypeExpr} :
    composition? allOf oneOf anyOf ≠ some (.leaf t) := by
  intro h
  rcases composition?_cases allOf oneOf anyOf with
    ⟨_, _, -, heq⟩ | ⟨-, _, _, -, heq⟩ | ⟨-, -, _, _, -, heq⟩ | ⟨-, -, -, heq⟩ <;>
  cases heq.symm.trans h

theorem typed_parts (k : Keywords) (items : Option Node)
    (properties : Option (List (String × Node))) :
    ∀ m ∈ (typed k items properties).parts,
      m ∈ items.toList ∨ m ∈ (properties.getD []).map Prod.snd := by
  intro m hm
  unfold typed at hm
  split at hm
  · split_ifs at hm
    · cases items with
      | none => simp [Layer.parts] at hm
      | some n => exact Or.inl (by simpa [Layer.parts] using hm)
    · cases properties with
      | none => simp [Layer.parts] at hm
      | some ps => exact Or.inr hm
    · simp [Layer.parts] at hm
  · simp [Layer.parts] at hm

/-- Where nothing is looked into, the type is that of any elements, or of any entries, or has a name
of its own. -/
theorem typed_eq_leaf {k : Keywords} {items : Option Node}
    {properties : Option (List (String × Node))} {t : TypeExpr}
    (h : typed k items properties = .leaf t) :
    t = .array .any ∨ t = .map .any ∨ ∃ name, t = scalarType name := by
  unfold typed at h
  split at h
  · split_ifs at h
    · cases items with
      | none => exact Or.inl (Layer.leaf.inj h).symm
      | some n => cases h
    · cases properties with
      | none => exact Or.inr (Or.inl (Layer.leaf.inj h).symm)
      | some ps => cases h
    · exact Or.inr (Or.inr ⟨_, (Layer.leaf.inj h).symm⟩)
  · exact Or.inr (Or.inr ⟨"", (Layer.leaf.inj h).symm⟩)

/-- What is looked at is a composition, or what the keyword `type` says when there is none. -/
theorem layer_cases (compositions : Bool) (k : Keywords) (items : Option Node)
    (properties : Option (List (String × Node))) (allOf oneOf anyOf : Option (List Node)) :
    (∃ l, compositions = true ∧ composition? allOf oneOf anyOf = some l ∧
        layer compositions k items properties allOf oneOf anyOf = l) ∨
      ((compositions = true → composition? allOf oneOf anyOf = none) ∧
        layer compositions k items properties allOf oneOf anyOf = typed k items properties) := by
  cases compositions with
  | false => exact Or.inr ⟨by simp, rfl⟩
  | true =>
    cases hc : composition? allOf oneOf anyOf with
    | none => exact Or.inr ⟨fun _ => rfl, by simp [layer, hc]⟩
    | some l => exact Or.inl ⟨l, rfl, rfl, by simp [layer, hc]⟩

/-- Only nodes under a keyword are looked into. -/
theorem layer_parts_subset (compositions : Bool) (k : Keywords) (items : Option Node)
    (properties : Option (List (String × Node))) (allOf oneOf anyOf : Option (List Node)) :
    ∀ m ∈ (layer compositions k items properties allOf oneOf anyOf).parts,
      m ∈ keywordNodes items properties allOf oneOf anyOf := by
  intro m hm
  simp only [keywordNodes, List.mem_append]
  rcases layer_cases compositions k items properties allOf oneOf anyOf with
    ⟨l, -, hl, heq⟩ | ⟨-, heq⟩
  · rw [heq] at hm
    rcases composition?_parts hl m hm with h | h | h
    · exact Or.inl (Or.inl (Or.inr h))
    · exact Or.inl (Or.inr h)
    · exact Or.inr h
  · rw [heq] at hm
    rcases typed_parts k items properties m hm with h | h
    · exact Or.inl (Or.inl (Or.inl (Or.inl h)))
    · exact Or.inl (Or.inl (Or.inl (Or.inr h)))

/-- A node under a keyword is smaller than the schema. -/
theorem sizeOf_lt_of_mem_keywordNodes {k : Keywords} {items : Option Node}
    {properties : Option (List (String × Node))} {allOf oneOf anyOf : Option (List Node)}
    {extras : Extras} {m : Node} (hm : m ∈ keywordNodes items properties allOf oneOf anyOf) :
    sizeOf m < sizeOf (Node.schema k items properties allOf oneOf anyOf extras) := by
  have hlist : ∀ ms : Option (List Node), m ∈ ms.getD [] → sizeOf m < sizeOf ms := by
    intro ms hm
    cases ms with
    | none => simp at hm
    | some ms =>
      have : sizeOf m < sizeOf ms := List.sizeOf_lt_of_mem hm
      simp only [Option.some.sizeOf_spec]
      omega
  -- Keyword by keyword: a part of a list or a mapping is smaller than the list or the mapping.
  rw [Node.schema.sizeOf_spec]
  simp only [keywordNodes, List.mem_append] at hm
  rcases hm with (((hm | hm) | hm) | hm) | hm
  · obtain rfl : items = some m := by simpa using hm
    simp only [Option.some.sizeOf_spec]
    omega
  · obtain ⟨p, hp, rfl⟩ := List.mem_map.mp hm
    cases properties with
    | none => simp at hp
    | some ps =>
      have h₁ : sizeOf p < sizeOf ps := List.sizeOf_lt_of_mem hp
      have h₂ : sizeOf p = 1 + sizeOf p.1 + sizeOf p.2 := Prod.mk.sizeOf_spec p.1 p.2
      simp only [Option.some.sizeOf_spec]
      omega
  · have := hlist allOf hm
    omega
  · have := hlist oneOf hm
    omega
  · have := hlist anyOf hm
    omega

theorem namedRefs_eq (ps : List (String × Node)) :
    namedRefs ps = (ps.map Prod.snd).flatMap nodeRefs := by
  induction ps with
  | nil => rfl
  | cons p ps ih => rw [namedRefs, ih, List.map_cons, List.flatMap_cons]

theorem listRefs_eq (ms : List Node) : listRefs ms = ms.flatMap nodeRefs := by
  induction ms with
  | nil => rfl
  | cons m ms ih => rw [listRefs, ih, List.flatMap_cons]

/-- The references in a schema are those in the nodes under its keywords. -/
theorem nodeRefs_schema (k : Keywords) (items : Option Node)
    (properties : Option (List (String × Node))) (allOf oneOf anyOf : Option (List Node))
    (extras : Extras) :
    nodeRefs (.schema k items properties allOf oneOf anyOf extras)
      = (keywordNodes items properties allOf oneOf anyOf).flatMap nodeRefs := by
  have hmembers : ∀ ms, memberRefs ms = (ms.getD []).flatMap nodeRefs := by
    intro ms
    cases ms with
    | none => rfl
    | some ms => exact listRefs_eq ms
  have hitems : itemRefs items = items.toList.flatMap nodeRefs := by
    cases items <;> simp [itemRefs]
  have hproperties :
      propertyRefs properties = ((properties.getD []).map Prod.snd).flatMap nodeRefs := by
    cases properties with
    | none => rfl
    | some ps => exact namedRefs_eq ps
  rw [nodeRefs, hitems, hproperties, hmembers, hmembers, hmembers]
  simp only [keywordNodes, List.flatMap_append]

/-! ### Children -/

section

variable {compositions : Bool} {n m : Node}

theorem children_of_layer? {l : Layer} (h : layer? compositions n = some l) :
    children compositions n = l.parts := by
  rw [children, h]
  rfl

/-- A node without a layer is a reference. -/
theorem eq_reference_of_layer? (h : layer? compositions n = none) : ∃ r, n = .reference r := by
  cases n with
  | reference r => exact ⟨r, rfl⟩
  | schema => cases h

theorem sizeOf_lt_of_mem_children (hm : m ∈ children compositions n) : sizeOf m < sizeOf n := by
  cases n with
  | reference r => cases hm
  | schema k items properties allOf oneOf anyOf extras =>
    exact sizeOf_lt_of_mem_keywordNodes (layer_parts_subset _ _ _ _ _ _ _ m hm)

/-- The references in a child are references in the node. -/
theorem nodeRefs_subset_of_mem_children (hm : m ∈ children compositions n) :
    nodeRefs m ⊆ nodeRefs n := by
  cases n with
  | reference r => cases hm
  | schema k items properties allOf oneOf anyOf extras =>
    rw [nodeRefs_schema]
    intro x hx
    exact List.mem_flatMap.mpr ⟨m, layer_parts_subset _ _ _ _ _ _ _ m hm, hx⟩

/-- **Induction on a node along its children.** -/
theorem node_induction (compositions : Bool) {P : Node → Prop}
    (h : ∀ n, (∀ m ∈ children compositions n, P m) → P n) (n : Node) : P n :=
  h n fun m hm =>
    have : sizeOf m < sizeOf n := sizeOf_lt_of_mem_children hm
    node_induction compositions h m
termination_by sizeOf n

end

/-! ### The type of a schema -/

section

variable (follow : String → Run TypeExpr) (compositions : Bool)

theorem typesWith_cons (n : Node) (ns : List Node) :
    typesWith follow compositions (n :: ns) = (do
      let t ← typeWith follow compositions n
      let ts ← typesWith follow compositions ns
      return t :: ts) := by
  rw [typesWith]

theorem membersWith_of_getD {ms : Option (List Node)} (h : ms.getD [] = []) :
    membersWith follow compositions ms = pure none := by
  rcases ms with _ | _ | ⟨m, rest⟩
  · rw [membersWith]
  · rw [membersWith, typesWith, pure_bind]
    rfl
  · cases h

/-- A composition with members has their types. -/
theorem membersWith_cons (m : Node) (ms : List Node) :
    membersWith follow compositions (some (m :: ms))
      = some <$> typesWith follow compositions (m :: ms) := by
  rw [membersWith, typesWith_cons]
  simp only [bind_assoc, pure_bind, map_eq_pure_bind, List.isEmpty_cons, Bool.false_eq_true,
    if_false]

theorem typesWith_singleton (n : Node) :
    typesWith follow compositions [n] = (fun t => [t]) <$> typeWith follow compositions n := by
  simp only [typesWith, pure_bind, map_eq_pure_bind]

/-- The properties of a record come from the types of their nodes. -/
theorem namedWith_eq (required : List String) (ps : List (String × Node)) :
    namedWith follow compositions required ps
      = List.zipWith (member required) ps
          <$> typesWith follow compositions (ps.map Prod.snd) := by
  induction ps with
  | nil => simp only [namedWith, List.map_nil, typesWith, map_pure, List.zipWith_nil_left]
  | cons p ps ih =>
    obtain ⟨name, n⟩ := p
    rw [namedWith, ih, List.map_cons, typesWith_cons]
    simp only [map_eq_pure_bind, bind_assoc, pure_bind, List.zipWith_cons_cons]
    rfl

/-- The type that the keyword `type` gives. -/
theorem typed_spec (k : Keywords) (items : Option Node)
    (properties : Option (List (String × Node))) :
    (match k.type with
      | some (.one name) =>
        if name = "array" then do
          return .array (← itemsWith follow compositions items)
        else if name = "object" then
          propertiesWith follow compositions (k.required.getD []) properties
        else return scalarType name
      | _ => return .any)
      = (typed k items properties).assemble
          <$> typesWith follow compositions (typed k items properties).parts := by
  unfold typed
  split
  · split_ifs
    · cases items with
      | none => simp only [itemsWith, Option.elim, Layer.parts, typesWith, pure_bind, map_pure,
          Layer.assemble]
      | some n =>
        simp only [itemsWith, Option.elim, Layer.parts, typesWith_singleton, map_eq_pure_bind,
          bind_assoc, pure_bind, Layer.assemble, List.headD_cons]
    · cases properties with
      | none => simp only [propertiesWith, Option.elim, Layer.parts, typesWith, map_pure,
          Layer.assemble]
      | some ps =>
        simp only [propertiesWith, namedWith_eq, Option.elim, Layer.parts, map_eq_pure_bind,
          bind_assoc, pure_bind, Layer.assemble]
    · simp only [Layer.parts, typesWith, map_pure, Layer.assemble]
  · simp only [Layer.parts, typesWith, map_pure, Layer.assemble]

/-- **The type of a schema is assembled from the types of its children.** -/
theorem typeWith_of_layer? {n : Node} {l : Layer} (h : layer? compositions n = some l) :
    typeWith follow compositions n
      = l.assemble <$> typesWith follow compositions l.parts := by
  obtain _ | ⟨k, items, properties, allOf, oneOf, anyOf, extras⟩ := n
  · cases h
  obtain rfl := Option.some.inj h
  rw [typeWith]
  cases compositions with
  | false => exact typed_spec follow false k items properties
  | true =>
    unfold layer
    simp only [if_true]
    -- The first composition keyword with members decides; those before it yield nothing.
    rcases composition?_cases allOf oneOf anyOf with
      ⟨m, ms, rfl, heq⟩ | ⟨hone, m, ms, rfl, heq⟩ | ⟨hone, hany, m, ms, rfl, heq⟩ |
        ⟨hone, hany, hall, heq⟩
    · simp only [heq, membersWith_cons, map_eq_pure_bind, bind_assoc, pure_bind]
      rfl
    · simp only [heq, membersWith_of_getD _ _ hone, membersWith_cons, map_eq_pure_bind, bind_assoc,
        pure_bind]
      rfl
    · simp only [heq, membersWith_of_getD _ _ hone, membersWith_of_getD _ _ hany, membersWith_cons,
        map_eq_pure_bind, bind_assoc, pure_bind]
      rfl
    · simp only [heq, membersWith_of_getD _ _ hone, membersWith_of_getD _ _ hany,
        membersWith_of_getD _ _ hall, pure_bind]
      exact typed_spec follow true k items properties

end

end ServerActions.Reference
