import ServerActions.Proofs.Description.Outline
import ServerActions.Proofs.Reference.Readable

/-!
# Reading a schema from its outline

A node that was read is laid out as a mapping once more.  Keywords of the wrong kind are missing
there, and what they hold stands in the form in which it was read.  Read from there, the node is the
same but for the further entries without a value, which are lost.

## Main definitions

* `Node.tidy` — a node without the further entries that have no value, at any depth.
* `Rereads` — the outline of a node is read as the node, with some levels.
* `KeywordValue.Rereads` — the same for what a keyword holds.
* `schemaLayout` — the mapping as which a schema is laid out.

## Main results

* `keywordValue?_outline` — what a keyword holds is read from its outline.
* `rereads_schema` — a schema is read from its outline if what its keywords hold is.
* `read_outline` — **a node that was read is read from its outline**.
-/

namespace ServerActions.Description

open Outline (plainEntries_eq plainItems_eq)
open ServerActions.Reference (InsideOf readAll_eq_some_iff read_of_mem_nodesOf
  read_of_mem_propertiesOf reference_eq_valid schemaWith_eq_valid)
open Relation (ReflTransGen)

/-! ### Nodes without empty entries -/

mutual
/-- The node without the further entries that have no value. -/
def Node.tidy : Node → Node
  | .reference r => .reference ⟨r.target, givenExtras r.extras⟩
  | .schema k items properties allOf oneOf anyOf extras =>
    .schema k (tidyItem items) (tidyProperties properties) (tidyMembers allOf) (tidyMembers oneOf)
      (tidyMembers anyOf) (givenExtras extras)
termination_by structural n => n

/-- The node of items without the further entries that have no value. -/
def tidyItem : Option Node → Option Node
  | some n => some n.tidy
  | none => none
termination_by structural n => n

/-- The nodes of properties without the further entries that have no value. -/
def tidyProperties : Option (List (String × Node)) → Option (List (String × Node))
  | some ps => some (tidyNamed ps)
  | none => none
termination_by structural ps => ps

/-- The nodes with names without the further entries that have no value. -/
def tidyNamed : List (String × Node) → List (String × Node)
  | [] => []
  | (name, n) :: ps => (name, n.tidy) :: tidyNamed ps
termination_by structural ps => ps

/-- The members of a composition without the further entries that have no value. -/
def tidyMembers : Option (List Node) → Option (List Node)
  | some ns => some (tidyNodes ns)
  | none => none
termination_by structural ns => ns

/-- The nodes without the further entries that have no value. -/
def tidyNodes : List Node → List Node
  | [] => []
  | n :: ns => n.tidy :: tidyNodes ns
termination_by structural ns => ns
end

/-- A property without the further entries that have no value. -/
def tidyProperty (p : String × Node) : String × Node :=
  (p.1, p.2.tidy)

theorem tidyNodes_eq (ns : List Node) : tidyNodes ns = ns.map Node.tidy := by
  induction ns with
  | nil => rfl
  | cons n ns ih => rw [tidyNodes, ih, List.map_cons]

theorem tidyNamed_eq (ps : List (String × Node)) : tidyNamed ps = ps.map tidyProperty := by
  induction ps with
  | nil => rfl
  | cons p ps ih => rw [tidyNamed, ih, List.map_cons, tidyProperty]

theorem tidy_schema (k : Keywords) (items : Option Node)
    (properties : Option (List (String × Node))) (allOf oneOf anyOf : Option (List Node))
    (extras : Extras) :
    (Node.schema k items properties allOf oneOf anyOf extras).tidy =
      .schema k (items.map Node.tidy) (properties.map (List.map tidyProperty))
        (allOf.map (List.map Node.tidy)) (oneOf.map (List.map Node.tidy))
        (anyOf.map (List.map Node.tidy)) (givenExtras extras) := by
  have hitem (x : Option Node) : tidyItem x = x.map Node.tidy := by
    cases x <;> rfl
  have hproperties (x : Option (List (String × Node))) :
      tidyProperties x = x.map (List.map tidyProperty) := by
    cases x with
    | none => rfl
    | some ps => rw [tidyProperties, tidyNamed_eq, Option.map_some]
  have hmembers (x : Option (List Node)) : tidyMembers x = x.map (List.map Node.tidy) := by
    cases x with
    | none => rfl
    | some ns => rw [tidyMembers, tidyNodes_eq, Option.map_some]
  rw [Node.tidy, hitem, hproperties, hmembers, hmembers, hmembers]

/-! ### What a keyword holds -/

/-- What a keyword holds, without the further entries that have no value. -/
def KeywordValue.tidy : KeywordValue → KeywordValue
  | .node n => .node n.tidy
  | .properties ps => .properties (ps.map tidyProperty)
  | .nodes ns => .nodes (ns.map Node.tidy)
  | x => x

theorem keyword?_tidy {k : Keywords} {items : Option Node}
    {properties : Option (List (String × Node))} {allOf oneOf anyOf : Option (List Node)}
    {extras : Extras} {name : String} (hname : name ∈ keywordNames) :
    (Node.schema k items properties allOf oneOf anyOf extras).tidy.keyword? name =
      ((Node.schema k items properties allOf oneOf anyOf extras).keyword? name).map
        KeywordValue.tidy := by
  simp only [keywordNames, List.mem_cons, List.not_mem_nil, or_false] at hname
  rw [tidy_schema]
  rcases hname with rfl | rfl | rfl | rfl | rfl | rfl | rfl | rfl | rfl | rfl | rfl | rfl | rfl <;>
    simp only [Node.keyword?, Option.map_map, Function.comp_def, KeywordValue.tidy]

/-- A schema is determined by its keywords and its further entries. -/
theorem eq_of_keyword? {k k' : Keywords} {items items' : Option Node}
    {properties properties' : Option (List (String × Node))}
    {allOf oneOf anyOf allOf' oneOf' anyOf' : Option (List Node)} {extras : Extras}
    (h : ∀ name ∈ keywordNames,
      (Node.schema k items properties allOf oneOf anyOf extras).keyword? name =
        (Node.schema k' items' properties' allOf' oneOf' anyOf' extras).keyword? name) :
    Node.schema k items properties allOf oneOf anyOf extras =
      .schema k' items' properties' allOf' oneOf' anyOf' extras := by
  have hmap {β : Type} {f : β → KeywordValue} {x y : Option β} (heq : x.map f = y.map f)
      (hf : Function.Injective f) : x = y :=
    Option.map_injective hf heq
  simp only [keywordNames, List.forall_mem_cons, Node.keyword?] at h
  obtain ⟨htitle, hdescription, htype, hformat, hchoices, hnullable, hitems, hproperties, hrequired,
    hadditional, hallOf, honeOf, hanyOf, -⟩ := h
  obtain ⟨title, description, type, format, choices, nullable, required, additionalProperties⟩ := k
  obtain ⟨title', description', type', format', choices', nullable', required',
    additionalProperties'⟩ := k'
  -- Under each keyword stands one form of value, so nothing is lost in passing to it.
  obtain rfl := hmap htitle fun _ _ => KeywordValue.text.inj
  obtain rfl := hmap hdescription fun _ _ => KeywordValue.text.inj
  obtain rfl := hmap htype fun _ _ => KeywordValue.type.inj
  obtain rfl := hmap hformat fun _ _ => KeywordValue.text.inj
  obtain rfl := hmap hchoices fun _ _ => KeywordValue.choices.inj
  obtain rfl := hmap hnullable fun _ _ => KeywordValue.truth.inj
  obtain rfl := hmap hitems fun _ _ => KeywordValue.node.inj
  obtain rfl := hmap hproperties fun _ _ => KeywordValue.properties.inj
  obtain rfl := hmap hrequired fun _ _ => KeywordValue.names.inj
  obtain rfl := hmap hadditional fun _ _ => KeywordValue.additionalProperties.inj
  obtain rfl := hmap hallOf fun _ _ => KeywordValue.nodes.inj
  obtain rfl := hmap honeOf fun _ _ => KeywordValue.nodes.inj
  obtain rfl := hmap hanyOf fun _ _ => KeywordValue.nodes.inj
  rfl

/-! ### Reading once more -/

/-- The outline of a node is well-formed, and is read with so many levels as the node, inside of
values that are all larger. -/
structure Rereads (levels : ℕ) (n : Node) : Prop where
  wellFormed : n.outline.plain.WellFormed 0
  read : ∀ around : List Value, (∀ u ∈ around, sizeOf n.outline.plain < sizeOf u) →
    Node.readWithin levels around n.outline.plain = .valid n.tidy

/-- What a keyword holds is made of nodes that are read from their outlines, and of values that are
well-formed. -/
def KeywordValue.Rereads (levels : ℕ) : KeywordValue → Prop
  | .choices vs => ∀ v ∈ vs, v.WellFormed 0
  | .additionalProperties (.described es) => (es.map Prod.fst).Nodup ∧ ∀ e ∈ es, e.2.WellFormed 0
  | .node n => Description.Rereads levels n
  | .properties ps => (ps.map Prod.fst).Nodup ∧ ∀ p ∈ ps, Description.Rereads levels p.2
  | .nodes ns => ∀ n ∈ ns, Description.Rereads levels n
  | _ => True

/-- The value of a node's outline is a mapping. -/
theorem isMapping_outline (n : Node) : n.outline.plain.isMapping = true := by
  cases n with
  | reference r => rfl
  | schema k items properties allOf oneOf anyOf extras =>
    rw [outline_schema, plain_model]
    rfl

/-- The values of the outlines of nodes, under the names of the nodes. -/
def outlineEntries (ps : List (String × Node)) : List (String × Value) :=
  ps.map fun p => (p.1, p.2.outline.plain)

theorem map_fst_outlineEntries (ps : List (String × Node)) :
    (outlineEntries ps).map Prod.fst = ps.map Prod.fst := by
  rw [outlineEntries, List.map_map]
  rfl

theorem lookup_outlineEntries (ps : List (String × Node)) (name : String) :
    (outlineEntries ps).lookup name = (ps.lookup name).map fun n => n.outline.plain :=
  lookup_map_snd (fun n : Node => n.outline.plain) ps name

theorem forall_mem_outlineEntries {P : String × Value → Prop} {ps : List (String × Node)} :
    (∀ e ∈ outlineEntries ps, P e) ↔ ∀ p ∈ ps, P (p.1, p.2.outline.plain) :=
  List.forall_mem_map

theorem plain_mappingOutline (ps : List (String × Node)) :
    (mappingOutline Node.outline ps).plain = .map (namedFields (outlineEntries ps)) := by
  rw [mappingOutline, Outline.plain, plainEntries_eq, List.map_map]
  rfl

theorem plain_listOutline (ns : List Node) :
    (listOutline Node.outline ns).plain = .list (ns.map fun n => n.outline.plain) := by
  rw [listOutline, Outline.plain, plainItems_eq, List.map_map]
  rfl

section

variable {levels : ℕ} {x : KeywordValue} {name : String} {read : NodeReader} {w : Value}

/-- What a keyword holds is laid out well-formed. -/
theorem KeywordValue.Rereads.wellFormed (h : x.Rereads levels) : x.outline.plain.WellFormed 0 := by
  cases x with
  | text s => trivial
  | type t =>
    cases t with
    | one name => trivial
    | several names => exact wellFormed_list wellFormed_of_mem_texts
  | choices vs => exact wellFormed_list h
  | truth b => trivial
  | names ss => exact wellFormed_list wellFormed_of_mem_texts
  | additionalProperties a =>
    cases a with
    | allowed b => trivial
    | described es => exact wellFormed_namedFields h.1 h.2
  | node n => exact h.wellFormed
  | properties ps =>
    rw [KeywordValue.outline, plain_mappingOutline]
    exact wellFormed_namedFields (map_fst_outlineEntries ps ▸ h.1)
      (forall_mem_outlineEntries.mpr fun p hp => (h.2 p hp).wellFormed)
  | nodes ns =>
    rw [KeywordValue.outline, plain_listOutline]
    refine wellFormed_list fun v hv => ?_
    obtain ⟨n, hn, rfl⟩ := List.mem_map.mp hv
    exact (h n hn).wellFormed

theorem rereads_additionalProperties (hw : w.WellFormed 0) {a : AdditionalProperties}
    (h : AdditionalProperties.read w = .valid a) :
    (KeywordValue.additionalProperties a).Rereads levels := by
  unfold AdditionalProperties.read at h
  split_ifs at h
  · obtain ⟨es, hes, rfl⟩ := Checked.map_eq_valid.mp h
    exact sound_of_toNamed hw hes
  · obtain ⟨b, -, rfl⟩ := Checked.map_eq_valid.mp h
    trivial

/-- What a keyword holds was read from values inside of its own. -/
theorem rereads_of_keywordValue? (hw : w.WellFormed 0) (h : keywordValue? read name w = some x)
    (hread : ∀ u m, ReflTransGen Contains w u → read u = .valid m → Rereads levels m) :
    x.Rereads levels := by
  -- The value stands alone in a mapping, so that what is known of nodes under keywords applies.
  let alone (name : String) : Fields := [(.str name, w)]
  have halone (name : String) : (alone name).get? name = some w := by simp [alone]
  have hinside {name : String} {u : Value} {m : Node} (hu : InsideOf (alone name) u)
      (hm : read u = .valid m) : Rereads levels m := by
    obtain ⟨f, hf, hu⟩ := hu
    obtain rfl := List.mem_singleton.mp hf
    exact hread u m hu hm
  have hnodes {ns : List Node} (h : nodesIn read w = some ns) : ∀ m ∈ ns, Rereads levels m := by
    intro m hm
    have hns : nodesOf read "allOf" (alone "allOf") = some ns := by
      rw [nodesOf_eq, halone, Option.bind_some, h]
    obtain ⟨u, hu, hinsideu⟩ := read_of_mem_nodesOf hns hm
    exact hinside hinsideu hu
  unfold keywordValue? at h
  split at h
  case h_14 => cases h
  all_goals obtain ⟨a, ha, rfl⟩ := Option.map_eq_some_iff.mp h
  -- Texts, truth values and lists of texts are always read from their outlines.
  all_goals first | trivial | skip
  · exact wellFormed_of_toListOf hw (Checked.toOption_eq_some.mp ha)
  · exact rereads_additionalProperties hw (Checked.toOption_eq_some.mp ha)
  · exact hread w a .refl (Checked.toOption_eq_some.mp ha)
  · -- The names of properties are the keys of a mapping.
    have hps : propertiesOf read (alone "properties") = some a := by
      rw [propertiesOf_eq, halone, Option.bind_some, ha]
    refine ⟨?_, fun p hp => ?_⟩
    · have hnodup : (((propertiesOf read (alone "properties")).getD []).map Prod.fst).Nodup :=
        Reference.nodup_propertiesOf (by simpa [alone] using hw)
      rwa [hps] at hnodup
    · obtain ⟨u, hu, hinsideu⟩ := read_of_mem_propertiesOf hps hp
      exact hinside hinsideu hu
  · exact hnodes ha
  · exact hnodes ha
  · exact hnodes ha

/-- What is read from its own outline. -/
theorem TypeKeyword.read_outline (t : TypeKeyword) :
    TypeKeyword.read t.outline.plain = .valid t := by
  cases t with
  | one name => rfl
  | several names =>
    have htexts : (TypeKeyword.several names).outline.plain = .list (names.map .str) := rfl
    have hnot : (Value.list (names.map .str)).toText = .fault .notText := rfl
    rw [htexts, TypeKeyword.read, hnot, toListOf_texts]
    rfl

theorem AdditionalProperties.read_outline {a : AdditionalProperties}
    (h : (KeywordValue.additionalProperties a).Rereads levels) :
    AdditionalProperties.read a.outline.plain = .valid a := by
  cases a with
  | allowed b => rfl
  | described es =>
    have hnamed : (AdditionalProperties.described es).outline.plain = .map (namedFields es) := rfl
    have hmapping : (Value.map (namedFields es)).isMapping = true := rfl
    rw [hnamed, AdditionalProperties.read, if_pos hmapping, toNamed_map h.1 h.2]
    rfl

theorem propertiesIn_outline {ps : List (String × Node)}
    (hwell : ∀ p ∈ ps, p.2.outline.plain.WellFormed 0)
    (hread : ∀ p ∈ ps, read p.2.outline.plain = .valid p.2.tidy) :
    propertiesIn read (mappingOutline Node.outline ps).plain = some (ps.map tidyProperty) := by
  have hfields : (mappingOutline Node.outline ps).plain.fields?
      = some (namedFields (outlineEntries ps)) := by
    rw [plain_mappingOutline]
    exact fields?_namedFields (forall_mem_outlineEntries.mpr hwell)
  -- Every property is laid out as a mapping under a text, so none is passed over.
  have hentries : propertyEntries (namedFields (outlineEntries ps)) = outlineEntries ps := by
    rw [propertyEntries, namedFields, outlineEntries, List.map_map, List.filterMap_map,
      ← List.filterMap_eq_map]
    refine List.filterMap_congr fun p _ => ?_
    simp only [Function.comp_apply, isMapping_outline, if_true, Key.str?, Option.map_some]
  have hall : readAll read ((outlineEntries ps).map Prod.snd)
      = some (ps.map fun p => p.2.tidy) := by
    rw [readAll_eq_some_iff, outlineEntries, List.map_map, List.forall₂_map_left_iff,
      List.forall₂_map_right_iff, List.forall₂_same]
    exact hread
  have hzip : (ps.map Prod.fst).zip (ps.map fun p => p.2.tidy) = ps.map tidyProperty :=
    List.zip_map' ..
  simp only [propertiesIn, hfields, hentries, hall, map_fst_outlineEntries, hzip,
    Option.bind_eq_bind, Option.bind_some, Option.pure_def]

theorem nodesIn_outline {ns : List Node} (hwell : ∀ n ∈ ns, n.outline.plain.WellFormed 0)
    (hread : ∀ n ∈ ns, read n.outline.plain = .valid n.tidy) :
    nodesIn read (listOutline Node.outline ns).plain = some (ns.map Node.tidy) := by
  have hitems : (listOutline Node.outline ns).plain.items?
      = some (ns.map fun n => n.outline.plain) := by
    rw [plain_listOutline]
    refine items?_list fun v hv => ?_
    obtain ⟨n, hn, rfl⟩ := List.mem_map.mp hv
    exact hwell n hn
  rw [nodesIn, hitems, Option.bind_some, readAll_eq_some_iff, List.forall₂_map_left_iff,
    List.forall₂_map_right_iff, List.forall₂_same]
  exact hread

/-- What stands in a mapping is smaller. -/
theorem sizeOf_lt_of_mem_fields {fs : Fields} {f : Key × Value} (h : f ∈ fs) :
    sizeOf f.2 < sizeOf (Value.map fs) := by
  have hlt : sizeOf f < sizeOf fs := List.sizeOf_lt_of_mem h
  have hpair : sizeOf f = 1 + sizeOf f.1 + sizeOf f.2 := Prod.mk.sizeOf_spec f.1 f.2
  rw [Value.map.sizeOf_spec]
  omega

theorem sizeOf_lt_of_mem_items {vs : List Value} {v : Value} (h : v ∈ vs) :
    sizeOf v < sizeOf (Value.list vs) := by
  have hlt : sizeOf v < sizeOf vs := List.sizeOf_lt_of_mem h
  rw [Value.list.sizeOf_spec]
  omega

/-- **What a keyword holds is read from its outline**, inside of values that are all larger. -/
theorem keywordValue?_outline {around : List Value} (h : keywordValue? read name w = some x)
    (hx : x.Rereads levels) (hsize : ∀ u ∈ around, sizeOf x.outline.plain < sizeOf u) :
    keywordValue? (Node.readWithin levels around) name x.outline.plain = some x.tidy := by
  have hnodes {ns : List Node} (hx : (KeywordValue.nodes ns).Rereads levels)
      (hsize : ∀ u ∈ around, sizeOf (KeywordValue.nodes ns).outline.plain < sizeOf u) :
      nodesIn (Node.readWithin levels around) (listOutline Node.outline ns).plain
        = some (ns.map Node.tidy) := by
    refine nodesIn_outline (fun n hn => (hx n hn).wellFormed) fun n hn => ?_
    refine (hx n hn).read around fun u hu => lt_trans ?_ (hsize u hu)
    rw [KeywordValue.outline, plain_listOutline]
    exact sizeOf_lt_of_mem_items (List.mem_map_of_mem hn)
  unfold keywordValue? at h ⊢
  split at h
  case h_14 => cases h
  all_goals obtain ⟨a, ha, rfl⟩ := Option.map_eq_some_iff.mp h
  -- Texts and truth values stand in the outline as such; the others have to be read.
  all_goals first | rfl | refine Option.map_eq_some_iff.mpr ⟨_, ?_, rfl⟩
  · exact Checked.toOption_eq_some.mpr a.read_outline
  · refine Checked.toOption_eq_some.mpr (toListOf_list hx ?_)
    exact List.forall₂_same.mpr fun _ _ => rfl
  · exact Checked.toOption_eq_some.mpr (toListOf_texts a)
  · exact Checked.toOption_eq_some.mpr (AdditionalProperties.read_outline hx)
  · exact Checked.toOption_eq_some.mpr (hx.read around hsize)
  · refine propertiesIn_outline (fun p hp => (hx.2 p hp).wellFormed) fun p hp => ?_
    refine (hx.2 p hp).read around fun u hu => lt_trans ?_ (hsize u hu)
    rw [KeywordValue.outline, plain_mappingOutline]
    have hmem : (Key.str p.1, p.2.outline.plain) ∈ namedFields (outlineEntries a) :=
      List.mem_map.mpr ⟨_, List.mem_map.mpr ⟨p, hp, rfl⟩, rfl⟩
    exact sizeOf_lt_of_mem_fields hmem
  · exact hnodes hx hsize
  · exact hnodes hx hsize
  · exact hnodes hx hsize

end

/-! ### Reading nodes once more -/

section

variable {levels : ℕ} {v : Value} {n : Node} {fs : Fields}

/-- A value is not met again inside of values that are larger. -/
theorem any_same_eq_false {around : List Value} (h : ∀ u ∈ around, sizeOf v < sizeOf u) :
    around.any v.same = false := by
  rw [List.any_eq_false]
  intro u hu hsame
  have hlt := h u hu
  rw [Value.eq_of_same hsame] at hlt
  exact lt_irrefl _ hlt

/-- A mapping inside of values that are all larger is read as a reference or as a schema. -/
theorem readWithin_succ {around : List Value} (hsize : ∀ u ∈ around, sizeOf v < sizeOf u)
    (hfs : v.fields? = some fs) : Node.readWithin (levels + 1) around v =
      if fs.has referenceKey then
        ((Reference.model.ofFields fs).map Node.reference).under "reference"
      else
        ((Node.schemaWith (Node.readWithin levels (v :: around))).ofFields fs).under "object" := by
  rw [Node.readWithin, any_same_eq_false hsize, if_neg Bool.false_ne_true, hfs, Option.getD_some,
    Model.read, Model.read, hfs]

/-- A reference is read from its outline. -/
theorem rereads_reference {r : Reference} (hextras : SoundExtras [referenceKey] r.extras) :
    Rereads (levels + 1) (.reference r) := by
  set fields : List (String × Outline) := [(referenceKey, .text r.target)] with hfields
  set entries := namedFields (laidOut fields r.extras) with hentries
  have hplain : (Node.reference r).outline.plain = .map entries := plain_model _ _ _
  obtain ⟨hnodup, hwell⟩ : ((laidOut fields r.extras).map Prod.fst).Nodup ∧
      ∀ e ∈ laidOut fields r.extras, e.2.WellFormed 0 :=
    sound_laidOut hextras (List.nodup_singleton _) (by simp [hfields])
      (List.forall_mem_singleton.mpr trivial)
  have hget : entries.get? referenceKey = some (.str r.target) := by
    rw [hentries, get?_laidOut hextras (List.mem_singleton_self _)]
    rfl
  have hhas : entries.has referenceKey = true := by
    rw [Fields.has, hget, Option.isSome_some]
  -- The one key that is used is that of references, under its own spelling.
  have hused : [[referenceKey, "ref"]].filterMap entries.nameUsed = [referenceKey] := by
    rw [List.filterMap_cons, Fields.nameUsed_of_has hhas]
    rfl
  have hundeclared : entries.undeclared [[referenceKey, "ref"]]
      = .valid (givenExtras r.extras) := by
    have hlegible : Text.hasSurrogates referenceKey.toList = false := by decide
    refine undeclared_laidOut hextras (List.forall_mem_singleton.mpr hlegible)
      (fun e he => ?_) fun e he => ?_
    · rw [hused, List.mem_singleton.mp he]
      exact List.mem_singleton_self _
    · rw [hused]
      exact hextras.given.apart e he
  have hread : Reference.model.ofFields entries = .valid ⟨r.target, givenExtras r.extras⟩ := by
    refine reference_eq_valid.mpr ⟨?_, hundeclared⟩
    simp only [Fields.required, Fields.lookup, hget]
    rfl
  refine ⟨hplain ▸ wellFormed_namedFields hnodup hwell, fun around hsize => ?_⟩
  rw [hplain] at hsize ⊢
  rw [readWithin_succ hsize (fields?_namedFields hwell), if_pos hhas, hread]
  rfl

/-! ### The entries of a schema -/

/-- The mapping as which a schema is laid out. -/
def schemaLayout (n : Node) (extras : Extras) : Fields :=
  namedFields (laidOut (keywordOutlines n) extras)

section

variable {extras : Extras} (hextras : SoundExtras (referenceKey :: keywordNames) extras)

include hextras

/-- Under a keyword stands the outline of what it holds. -/
theorem get?_schemaLayout {name : String} (hname : name ∈ keywordNames) :
    (schemaLayout n extras).get? name = (n.keyword? name).map fun x => x.outline.plain := by
  rw [schemaLayout, get?_laidOut hextras (List.mem_cons_of_mem _ hname), keywordOutlines,
    lookup_entriesFor hname, Option.map_map]
  rfl

/-- A schema is not laid out as a reference. -/
theorem has_schemaLayout : (schemaLayout n extras).has referenceKey = false := by
  have hnone : (keywordOutlines n).lookup referenceKey = none :=
    List.lookup_eq_none_iff.mpr fun e he => by
      have hname := (mem_entriesFor.mp he).1
      simpa using fun heq : referenceKey = e.1 => by
        rw [← heq] at hname
        exact absurd hname (by decide)
  rw [Fields.has, schemaLayout, get?_laidOut hextras (List.mem_cons_self ..), hnone]
  rfl

/-- The entries have distinct names and hold what is well-formed, if the keywords do. -/
theorem sound_schemaLayout
    (hkeywords : ∀ name ∈ keywordNames, ∀ x, n.keyword? name = some x →
      x.outline.plain.WellFormed 0) :
    ((laidOut (keywordOutlines n) extras).map Prod.fst).Nodup ∧
      ∀ e ∈ laidOut (keywordOutlines n) extras, e.2.WellFormed 0 := by
  refine sound_laidOut hextras ?_ (fun e he => ?_) fun e he => ?_
  · exact (map_fst_entriesFor_sublist _ _).nodup (by decide)
  · exact List.mem_cons_of_mem _ (mem_entriesFor.mp he).1
  · obtain ⟨hname, he⟩ := mem_entriesFor.mp he
    obtain ⟨x, hx, heq⟩ := Option.map_eq_some_iff.mp he
    rw [← heq]
    exact hkeywords _ hname x hx

/-- The entries that are no keywords are the further entries with a value. -/
theorem undeclared_schemaLayout :
    (schemaLayout n extras).undeclared (keywordNames.map ([·])) = .valid (givenExtras extras) := by
  have hkeywords : ∀ name ∈ keywordNames, Text.hasSurrogates name.toList = false := by decide
  refine undeclared_laidOut hextras (fun e he => hkeywords _ (mem_entriesFor.mp he).1)
    (fun e he => ?_) fun e he hused => ?_
  · obtain ⟨hname, he⟩ := mem_entriesFor.mp he
    obtain ⟨x, hx, -⟩ := Option.map_eq_some_iff.mp he
    refine Fields.mem_filterMap_nameUsed.mpr ⟨hname, ?_⟩
    rw [← schemaLayout, Fields.has, get?_schemaLayout hextras hname, hx, Option.map_some,
      Option.isSome_some]
  · exact hextras.given.apart e he
      (List.mem_cons_of_mem _ (Fields.mem_filterMap_nameUsed.mp hused).1)

/-- What a keyword of a schema holds is read from the entries, inside of the schema and of values
that are larger. -/
theorem keyword?_schemaLayout {around : List Value} {name : String} {x : KeywordValue}
    (hname : name ∈ keywordNames) (hx : n.keyword? name = some x) (hrereads : x.Rereads levels)
    (hread : ∃ read w, keywordValue? read name w = some x)
    (hsize : ∀ u ∈ around, sizeOf (Value.map (schemaLayout n extras)) < sizeOf u) :
    keywordValue? (Node.readWithin levels (.map (schemaLayout n extras) :: around)) name
      x.outline.plain = some x.tidy := by
  obtain ⟨read, w, hread⟩ := hread
  have hentry : (schemaLayout n extras).get? name = some x.outline.plain := by
    rw [get?_schemaLayout hextras hname, hx, Option.map_some]
  have hlt : sizeOf x.outline.plain < sizeOf (Value.map (schemaLayout n extras)) :=
    sizeOf_lt_of_mem_fields (Fields.mem_of_get? hentry)
  refine keywordValue?_outline hread hrereads fun u hu => ?_
  rcases List.mem_cons.mp hu with rfl | hu
  · exact hlt
  · exact hlt.trans (hsize u hu)

end

/-! ### The round trip of a node -/

/-- A schema is read from its outline, if what its keywords hold is. -/
theorem rereads_schema {k : Keywords} {items : Option Node}
    {properties : Option (List (String × Node))} {allOf oneOf anyOf : Option (List Node)}
    {extras : Extras} (hextras : SoundExtras (referenceKey :: keywordNames) extras)
    (hkeywords : ∀ name ∈ keywordNames, ∀ x,
      (Node.schema k items properties allOf oneOf anyOf extras).keyword? name = some x →
        x.Rereads levels ∧ ∃ read w, keywordValue? read name w = some x) :
    Rereads (levels + 1) (.schema k items properties allOf oneOf anyOf extras) := by
  set n := Node.schema k items properties allOf oneOf anyOf extras with hn
  have hplain : n.outline.plain = .map (schemaLayout n extras) := by
    rw [hn, outline_schema, plain_model, schemaLayout]
  obtain ⟨hnodup, hwell⟩ := sound_schemaLayout hextras fun name hname x hx =>
    (hkeywords name hname x hx).1.wellFormed
  have hfields : (Value.map (schemaLayout n extras)).fields? = some (schemaLayout n extras) :=
    fields?_namedFields hwell
  refine ⟨hplain ▸ wellFormed_namedFields hnodup hwell, fun around hsize => ?_⟩
  rw [hplain] at hsize ⊢
  rw [readWithin_succ hsize hfields, has_schemaLayout hextras, if_neg Bool.false_ne_true,
    Checked.under_eq_valid]
  -- As the further entries are read, a schema is; it remains to compare the keywords.
  have hundeclared := undeclared_schemaLayout (n := n) hextras
  obtain ⟨m, hm⟩ : ∃ m, (Node.schemaWith (Node.readWithin levels
      (.map (schemaLayout n extras) :: around))).ofFields (schemaLayout n extras) = .valid m :=
    ⟨_, schemaWith_eq_valid.mpr ⟨_, hundeclared, rfl⟩⟩
  have hkeyword : ∀ name ∈ keywordNames, m.keyword? name = n.tidy.keyword? name := by
    intro name hname
    rw [keyword?_of_schemaWith hm hname, get?_schemaLayout hextras hname, hn,
      keyword?_tidy hname, ← hn]
    cases hx : n.keyword? name with
    | none => rfl
    | some x =>
      obtain ⟨hrereads, hread⟩ := hkeywords name hname x hx
      exact keyword?_schemaLayout hextras hname hx hrereads hread hsize
  obtain ⟨_, hextras', rfl⟩ := schemaWith_eq_valid.mp hm
  obtain rfl := Checked.valid.inj (hextras'.symm.trans hundeclared)
  rw [hm, hn, tidy_schema]
  rw [hn, tidy_schema] at hkeyword
  exact congrArg _ (eq_of_keyword? hkeyword)

/-- A node that was read is read from its outline, by induction on the levels. -/
theorem rereads_of_readWithin (levels : ℕ) : ∀ (around : List Value) (v : Value) (n : Node),
    v.WellFormed 0 → Node.readWithin levels around v = .valid n → Rereads levels n := by
  induction levels with
  | zero => intro around v n _ h; simp [Node.readWithin] at h
  | succ levels ih =>
    intro around v n hv h
    rw [Node.readWithin] at h
    split_ifs at h with hsame href
    · simp at h
    · -- A reference holds no nodes.
      simp only [Checked.under_eq_valid, Checked.map_eq_valid, Model.read_eq_valid] at h
      obtain ⟨r, ⟨fs, hfs, hr⟩, rfl⟩ := h
      rw [hfs, Option.getD_some] at href
      obtain ⟨-, hextras⟩ := reference_eq_valid.mp hr
      obtain ⟨hkeys, hwell⟩ := hv.fields hfs
      refine rereads_reference (soundExtras_of_undeclared hkeys hwell hextras ?_)
      intro name hname hhas
      obtain rfl := List.mem_singleton.mp hname
      exact List.mem_filterMap.mpr ⟨_, List.mem_singleton_self _, Fields.nameUsed_of_has hhas _⟩
    · -- What the keywords of a schema hold was read with one level less, inside of its value.
      simp only [Checked.under_eq_valid, Model.read_eq_valid] at h
      obtain ⟨fs, hfs, hschema⟩ := h
      rw [hfs, Option.getD_some] at href
      have hkeyword : ∀ name ∈ keywordNames, n.keyword? name = (fs.get? name).bind
          (keywordValue? (Node.readWithin levels (v :: around)) name) :=
        fun name hname => keyword?_of_schemaWith hschema hname
      obtain ⟨extras, hextras, rfl⟩ := schemaWith_eq_valid.mp hschema
      obtain ⟨hkeys, hwell⟩ := hv.fields hfs
      refine rereads_schema (soundExtras_of_undeclared_map hkeys hwell hextras
        fun name hname hhas => ?_) fun name hname x hx => ?_
      · exact (List.mem_cons.mp hname).resolve_left fun heq => href (heq ▸ hhas)
      · rw [hkeyword name hname] at hx
        obtain ⟨w, hw, hx⟩ := Option.bind_eq_some_iff.mp hx
        have hinside : ReflTransGen Contains v w := .single (.entry hfs (Fields.mem_of_get? hw))
        refine ⟨rereads_of_keywordValue? (hv.of_contains hinside) hx fun u m hu hm => ?_, _, w, hx⟩
        exact ih _ u m (hv.of_contains (hinside.trans hu)) hm

/-- **A node that was read is read from its outline**, without the further entries that have no
value. -/
theorem read_outline {depth : ℕ} (hv : v.WellFormed 0) (h : Node.readAt depth v = .valid n) :
    n.outline.plain.WellFormed 0 ∧ Node.readAt depth n.outline.plain = .valid n.tidy := by
  have hrereads := rereads_of_readWithin _ _ v n hv h
  exact ⟨hrereads.wellFormed, hrereads.read [] (by simp)⟩

end

end ServerActions.Description
