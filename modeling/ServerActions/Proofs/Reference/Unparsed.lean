import ServerActions.Proofs.Reference.Components
import ServerActions.Proofs.Reference.Mirror
import ServerActions.Proofs.Reference.Transparency

/-!
# Descriptions looked up in their outlines

A description may have been made without the mapping that it was read from; then references are
looked up in its outline.  There the schemas of the components stand as they were read, without the
further entries that have no value, and so the pointers to components lead to the same types.

Components whose names are given by their octets are the exception.  In the outline the names are
texts, so that a pointer leads to them.

## Main definitions

* `schemasValue?` — what stands where pointers to components look for schemas.
* `absence` — the failure of a pointer to a component that there is not.

## Main results

* `schemasValue?_outline` — what stands there in the outline of a description.
* `mirrors_outline` — pointers to components lead to the same schemas.
* `typeOf_outline` — **a reference to a component has the same type in the outline**, or fails in
  both at the same reference.
-/

namespace ServerActions.Reference

open Description (Document Contents Components Node maxDepth SoundExtras
  soundExtras_of_undeclared_map plain_model get?_laidOut plain_mappingOutline outlineEntries
  map_fst_outlineEntries lookup_outlineEntries forall_mem_outlineEntries tidyProperty tidy_schema)
open TypeScript (TypeExpr)

/-! ### Where pointers to components look -/

/-- What stands where pointers to components look for schemas. -/
def schemasValue? (root : Fields) : Option Value :=
  (((Value.map root).fields?.bind (·.get? "components")).bind Value.fields?).bind
    (·.get? "schemas")

/-- The failure of a pointer to a component that there is not. -/
def absence (ref walked name : String) : Failure :=
  match indexOf? name with
  | .error f => .bare (.numeral f)
  | .ok _ => .reference ref (some (.noSuchPlace (walked ++ "/" ++ name)))

section

variable {root fs : Fields} {v w : Value} {ref walked name step : String}

/-- A step that is no number leads to what stands under it in a mapping. -/
theorem stepInto_eq (h : Text.isDigits step.toList = false) (v : Value) :
    stepInto step v = .ok (v.fields?.bind (·.get? step)) := by
  have hindex : indexOf? step = .ok none := by
    rw [indexOf?, h, if_neg Bool.false_ne_true]
  unfold stepInto
  cases v.fields? with
  | some fs => cases hget : fs.get? step <;> simp [hget, hindex, Except.map]
  | none => cases v.listItems? <;> simp [hindex, Except.map]

/-- A pointer to a component is looked up among the schemas. -/
theorem resolve_of_schemasValue? (h : schemasValue? root = some w) (name : String) :
    resolve root (componentPointer name)
      = walk (componentPointer name) "#/components/schemas" w [name] := by
  obtain ⟨entries, hentries, hw⟩ := Option.bind_eq_some_iff.mp h
  obtain ⟨c, hc, hentries⟩ := Option.bind_eq_some_iff.mp hentries
  have hcomponents : stepInto "components" (.map root) = .ok (some c) := by
    rw [stepInto_eq (by decide), hc]
  have hschemas : stepInto "schemas" c = .ok (some w) := by
    rw [stepInto_eq (by decide), hentries, Option.bind_some, hw]
  rw [resolve_componentPointer_eq, walk]
  simp only [hcomponents]
  rw [walk]
  simp only [hschemas]
  rfl

/-- Where there are no schemas, a pointer to a component fails. -/
theorem resolve_of_schemasValue?_eq_none (h : schemasValue? root = none) (name : String) :
    ∃ why, resolve root (componentPointer name)
      = .error (.reference (componentPointer name) why) := by
  rw [resolve_componentPointer_eq, walk]
  simp only [stepInto_eq (by decide : Text.isDigits "components".toList = false)]
  cases hc : (Value.map root).fields?.bind (·.get? "components") with
  | none => exact ⟨_, rfl⟩
  | some c =>
    have hnone : c.fields?.bind (·.get? "schemas") = none := by
      rwa [schemasValue?, hc, Option.bind_some] at h
    simp only [walk, stepInto_eq (by decide : Text.isDigits "schemas".toList = false), hnone]
    exact ⟨_, rfl⟩

/-- Where there is no value for the schemas, neither. -/
theorem resolve_of_schemasValue?_eq_null (h : schemasValue? root = some .null) (name : String) :
    ∃ why, resolve root (componentPointer name)
      = .error (.reference (componentPointer name) why) := by
  rw [resolve_of_schemasValue? h]
  exact ⟨_, rfl⟩

/-- A number is no key of a mapping whose keys are texts. -/
theorem find?_int_eq_none (htexts : ∀ f ∈ fs, f.1.str?.isSome) (n : ℤ) :
    fs.find? (.int n) = none := by
  have hnone : List.find? (fun f => f.1.same (.int n)) fs = none := by
    refine List.find?_eq_none.mpr fun f hf => ?_
    obtain ⟨k, v⟩ := f
    have hk := htexts _ hf
    cases k with
    | str s => simp [Key.same, Key.toInt?]
    | _ => simp [Key.str?] at hk
  rw [Fields.find?, hnone, Option.map_none]

/-- A name of a mapping whose keys are texts leads to what stands under it. -/
theorem walk_name (hfs : v.fields? = some fs) (htexts : ∀ f ∈ fs, f.1.str?.isSome)
    (ref walked name : String) : walk ref walked v [name] = match fs.get? name with
      | some w => .ok w
      | none => .error (absence ref walked name) := by
  rw [walk, stepInto]
  cases hget : fs.get? name with
  | some w => simp [hfs, hget, walk]
  | none =>
    -- Not even a name of digits leads on, since there is no number among the keys.
    have hfind (n? : Option ℕ) : (n?.bind fun n => fs.find? (.int (n : ℕ))) = none := by
      cases n? with
      | none => rfl
      | some n => exact find?_int_eq_none htexts n
    rw [absence]
    cases hindex : indexOf? name with
    | error f => simp [hfs, hget, Except.map]
    | ok n? => simp [hfs, hget, hfind, Except.map]

end

/-! ### The schemas of a description -/

/-- The schemas that were read for the components of a description. -/
def schemas? (doc : Document) : Option (List (String × Node)) :=
  doc.contents.components.bind Components.schemas

section

variable {content : Value} {doc : Document}

/-- The schemas of a description are read from where pointers to components look for them, or there
is nothing. -/
theorem schemas?_cases (hcontent : content.WellFormed 0)
    (hread : Document.model.read content = .valid doc) :
    (schemas? doc = none ∧ (schemasValue? doc.raw = none ∨ schemasValue? doc.raw = some .null)) ∨
      ∃ w ss, schemas? doc = some ss ∧ schemasValue? doc.raw = some w ∧ w.WellFormed 0 ∧
        w.fields? = some (schemaEntries doc.raw) ∧ w.toMappingOf (Node.readAt 0) = .valid ss := by
  obtain ⟨hfields, hcontents⟩ := Description.contents_of_read hread
  obtain ⟨-, hroot⟩ := hcontent.fields hfields
  have hraw : (Value.map doc.raw).fields? = some doc.raw := fields?_map hroot
  have hfield := (Contents.fields_of_valid hcontents).2
  unfold schemas? schemasValue? schemaEntries
  rw [hraw, Option.bind_some]
  cases hcs : doc.contents.components with
  | none =>
    rw [hcs] at hfield
    refine Or.inl ⟨rfl, Or.inl ?_⟩
    rcases Fields.get?_of_optional_eq_none hfield with h | h <;> rw [h] <;> rfl
  | some components =>
    rw [hcs] at hfield
    obtain ⟨c, hc, hcomponents⟩ := Fields.optional_eq_some hfield
    obtain ⟨entries, hentries, hcomponents⟩ := Model.read_eq_valid.mp hcomponents
    have hschemas := Components.schemas_of_valid hcomponents
    simp only [hc, hentries, Option.bind_some]
    cases hss : components.schemas with
    | none =>
      rw [hss] at hschemas
      exact Or.inl ⟨rfl, Fields.get?_of_optional_eq_none hschemas⟩
    | some ss =>
      rw [hss] at hschemas
      obtain ⟨w, hw, hss⟩ := Fields.optional_eq_some hschemas
      obtain ⟨fs, -, hfs, -⟩ := toMappingOf_eq_valid.mp hss
      have hwell : w.WellFormed 0 :=
        ((hroot _ (Fields.mem_of_get? hc)).fields hentries).2 _ (Fields.mem_of_get? hw)
      rw [hw, Option.bind_some, hfs]
      exact Or.inr ⟨w, ss, rfl, rfl, hwell, hfs, hss⟩

/-! ### The outline of a description -/

/-- The components stand in the outline of a description as they are laid out. -/
theorem get?_components (hkeys : doc.raw.KeysDistinct) (hroot : ∀ f ∈ doc.raw, f.2.WellFormed 0)
    (hcontents : Contents.model.ofFields doc.raw = .valid doc.contents) :
    doc.contents.toDocument.raw.get? "components"
      = doc.contents.components.map fun c => c.outline.plain := by
  have hundeclared := (Contents.ofFields_eq_valid.mp hcontents).2.2.2.2.2
  have hextras : SoundExtras ["components"] doc.contents.extras :=
    @soundExtras_of_undeclared_map _ ["openapi", "info", "servers", "paths", "components"] _ _ hkeys
      hroot hundeclared (List.forall_mem_singleton.mpr fun _ => by decide)
  rw [Contents.toDocument, Outline.plainFields, Contents.outline, plain_model,
    get?_laidOut hextras (List.mem_singleton_self _)]
  simp [List.lookup_append, Outline.lookup_field, List.lookup_cons, Function.comp_def]

/-- The schemas stand in the outline of the components as they are laid out. -/
theorem get?_schemas {entries : Fields} {c : Components} (hkeys : entries.KeysDistinct)
    (hentries : ∀ f ∈ entries, f.2.WellFormed 0)
    (hc : Components.model.ofFields entries = .valid c) :
    ∃ fs, c.outline.plain = .map fs ∧ Fields.get? fs "schemas"
      = c.schemas.map fun ss => (Description.mappingOutline Node.outline ss).plain := by
  have hundeclared := (Components.ofFields_eq_valid.mp hc).2.2.2.2
  have hextras : SoundExtras ["schemas"] c.extras :=
    @soundExtras_of_undeclared_map _ ["schemas", "parameters", "requestBodies", "responses"] _ _
      hkeys hentries hundeclared (List.forall_mem_singleton.mpr fun _ => by decide)
  refine ⟨_, plain_model _ _ _, ?_⟩
  rw [get?_laidOut hextras (List.mem_singleton_self _)]
  simp [List.lookup_append, Outline.lookup_field, Function.comp_def]

/-- What stands in the outline of a description where pointers to components look for schemas is
their outline. -/
theorem schemasValue?_outline (hcontent : content.WellFormed 0)
    (hread : Document.model.read content = .valid doc)
    (hwell : ∀ ss, schemas? doc = some ss →
      (Description.mappingOutline Node.outline ss).plain.WellFormed 0) :
    schemasValue? doc.contents.toDocument.raw
      = (schemas? doc).map fun ss => (Description.mappingOutline Node.outline ss).plain := by
  obtain ⟨hfields, hcontents⟩ := Description.contents_of_read hread
  obtain ⟨hkeys, hroot⟩ := hcontent.fields hfields
  have hcomponents := get?_components hkeys hroot hcontents
  rw [schemasValue?, Value.fields?, Option.bind_some, Fields.get?_map_snd, hcomponents]
  unfold schemas? at hwell ⊢
  cases hcs : doc.contents.components with
  | none => rfl
  | some c =>
    have hfield := (Contents.fields_of_valid hcontents).2
    rw [hcs] at hfield
    obtain ⟨v, hv, hc⟩ := Fields.optional_eq_some hfield
    obtain ⟨entries, hentries, hc⟩ := Model.read_eq_valid.mp hc
    obtain ⟨hdistinct, hwellEntries⟩ := (hroot _ (Fields.mem_of_get? hv)).fields hentries
    obtain ⟨fs, hfs, hschemas⟩ := get?_schemas hdistinct hwellEntries hc
    simp only [Option.map_some, Option.bind_some, hfs, Value.settled, settledFields_eq,
      Value.fields?, Fields.get?_map_snd, hschemas]
    rw [hcs, Option.bind_some] at hwell
    cases hss : c.schemas with
    | none => rfl
    | some ss =>
      -- Nothing in the schemas refers to a list or a mapping around them.
      simp only [Option.map_some, Value.settled_eq_self _ ((hwell ss hss).mono (Nat.zero_le _))]

/-! ### Pointers to components -/

/-- Several nodes are cut and tidied in either order if each of them is. -/
theorem mapM_prune_tidy {levels : ℕ}
    (h : ∀ n : Node, prune levels n.tidy = (prune levels n).map Node.tidy) (ns : List Node) :
    (ns.map Node.tidy).mapM (prune levels) = (ns.mapM (prune levels)).map (List.map Node.tidy) := by
  induction ns with
  | nil => rfl
  | cons n ns ih =>
    rw [List.map_cons, List.mapM_cons, List.mapM_cons, h, ih]
    cases prune levels n <;> cases ns.mapM (prune levels) <;> rfl

/-- So are properties, which keep their names. -/
theorem mapM_prune_tidyProperty {levels : ℕ}
    (h : ∀ n : Node, prune levels n.tidy = (prune levels n).map Node.tidy)
    (ps : List (String × Node)) :
    (((ps.map tidyProperty).map Prod.snd).mapM (prune levels)).map
        (((ps.map tidyProperty).map Prod.fst).zip ·)
      = (((ps.map Prod.snd).mapM (prune levels)).map ((ps.map Prod.fst).zip ·)).map
          (List.map tidyProperty) := by
  have hfst : (ps.map tidyProperty).map Prod.fst = ps.map Prod.fst := List.map_map
  have hsnd : (ps.map tidyProperty).map Prod.snd = (ps.map Prod.snd).map Node.tidy := by
    rw [List.map_map, List.map_map]
    rfl
  simp only [hfst, hsnd, mapM_prune_tidy h, Option.map_map, Function.comp_def, List.zip_map_right]
  rfl

/-- It makes no difference whether a node is cut before or after the further entries that have no
value are left out. -/
theorem prune_tidy (levels : ℕ) :
    ∀ n : Node, prune levels n.tidy = (prune levels n).map Node.tidy := by
  induction levels with
  | zero => intro n; rfl
  | succ levels ih =>
    intro n
    cases n with
    | reference r => rfl
    | schema k items properties allOf oneOf anyOf extras =>
      -- What is there is cut by the levels inside, and what is not there stays away.
      have hitems : (items.map Node.tidy).bind (prune levels)
          = (items.bind (prune levels)).map Node.tidy := by
        cases items with
        | none => rfl
        | some m => exact ih m
      have hnodes (ns : Option (List Node)) :
          (ns.map (List.map Node.tidy)).bind (·.mapM (prune levels))
            = (ns.bind (·.mapM (prune levels))).map (List.map Node.tidy) := by
        cases ns with
        | none => rfl
        | some ns => exact mapM_prune_tidy ih ns
      have hproperties : ((properties.map (List.map tidyProperty)).bind fun ps =>
          ((ps.map Prod.snd).mapM (prune levels)).map ((ps.map Prod.fst).zip ·))
            = (properties.bind fun ps => ((ps.map Prod.snd).mapM (prune levels)).map
                ((ps.map Prod.fst).zip ·)).map (List.map tidyProperty) := by
        cases properties with
        | none => rfl
        | some ps => exact mapM_prune_tidyProperty ih ps
      rw [tidy_schema, prune, prune, Option.map_some, tidy_schema, hitems, hproperties, hnodes,
        hnodes, hnodes]

/-- A schema of a description is read from its outline, on its own as well. -/
theorem read_outline_of_mem {v : Value} (hwell : v.WellFormed 0) {n : Node}
    (hn : Node.readAt 0 v = .valid n) :
    n.outline.plain.WellFormed 0 ∧
      ∃ m, Node.read v = .valid m ∧ Node.read n.outline.plain = .valid m.tidy := by
  obtain ⟨houtline, hagain⟩ := Description.read_outline hwell hn
  obtain ⟨m, hm, hpruned, -⟩ := read_of_readAt (Nat.zero_le 1) hn
  obtain ⟨m', hm', hpruned', -⟩ := read_of_readAt (Nat.zero_le 1) hagain
  -- On its own the outline is cut just as the schema is.
  rw [prune_tidy, hpruned, Option.map_some] at hpruned'
  exact ⟨houtline, m, hm, Option.some.inj hpruned' ▸ hm'⟩

/-- The outlines of the schemas of a description are well-formed, under distinct names. -/
theorem sound_outlineEntries {w : Value} (hw : w.WellFormed 0) {ss : List (String × Node)}
    (hread : w.toMappingOf (Node.readAt 0) = .valid ss) :
    ((outlineEntries ss).map Prod.fst).Nodup ∧ ∀ e ∈ outlineEntries ss, e.2.WellFormed 0 := by
  refine ⟨?_, forall_mem_outlineEntries.mpr fun p hp => ?_⟩
  · obtain ⟨_, entries, -, -, rfl⟩ := toMappingOf_eq_valid.mp hread
    rw [map_fst_outlineEntries]
    exact nodup_oncePerName entries
  · obtain ⟨fs, hfs, k, v, hmem, -, hv⟩ := mem_toMappingOf hread hp
    exact (read_outline_of_mem ((hw.fields hfs).2 _ hmem) hv).1

/-- Where no schemas are read, a pointer to a component fails at the reference, in the outline as
well. -/
theorem target_outline_of_none (hcontent : content.WellFormed 0)
    (hread : Document.model.read content = .valid doc) (hnone : schemas? doc = none)
    (hraw : schemasValue? doc.raw = none ∨ schemasValue? doc.raw = some .null) (name : String) :
    ∃ e e', target doc.raw (componentPointer name) = .error e ∧
      target doc.contents.toDocument.raw (componentPointer name) = .error e' ∧ e.Alike e' := by
  have hraw' : schemasValue? doc.contents.toDocument.raw = none := by
    rw [schemasValue?_outline hcontent hread (by simp [hnone]), hnone, Option.map_none]
  obtain ⟨why', h'⟩ := resolve_of_schemasValue?_eq_none hraw' name
  obtain ⟨why, h⟩ : ∃ why, resolve doc.raw (componentPointer name)
      = .error (.reference (componentPointer name) why) := by
    rcases hraw with hraw | hraw
    · exact resolve_of_schemasValue?_eq_none hraw name
    · exact resolve_of_schemasValue?_eq_null hraw name
  exact ⟨_, _, target_of_resolve_eq_error h, target_of_resolve_eq_error h',
    Failure.alike_reference _ why why'⟩

/-- The schemas that are read stand in the outline under their names. -/
theorem schemasValue?_outline_of_some (hcontent : content.WellFormed 0)
    (hread : Document.model.read content = .valid doc) {ss : List (String × Node)}
    (hss : schemas? doc = some ss)
    (hnames : ((outlineEntries ss).map Prod.fst).Nodup)
    (houtlines : ∀ e ∈ outlineEntries ss, e.2.WellFormed 0) :
    schemasValue? doc.contents.toDocument.raw = some (.map (namedFields (outlineEntries ss))) := by
  rw [schemasValue?_outline hcontent hread fun ss' hss' => ?_, hss, Option.map_some,
    plain_mappingOutline]
  obtain rfl := Option.some.inj (hss.symm.trans hss')
  rw [plain_mappingOutline]
  exact wellFormed_namedFields hnames houtlines

/-- A pointer to a component leads to the same schema in the outline, without the further entries
that have no value, or fails in both alike. -/
theorem target_outline (hcontent : content.WellFormed 0)
    (hread : Document.model.read content = .valid doc)
    (htexts : ∀ f ∈ schemaEntries doc.raw, f.1.str?.isSome) (name : String) :
    (∃ f ∈ schemaEntries doc.raw, ∃ n, Node.read f.2 = .valid n ∧
        target doc.raw (componentPointer name) = .ok n ∧
        target doc.contents.toDocument.raw (componentPointer name) = .ok n.tidy) ∨
      ∃ e e', target doc.raw (componentPointer name) = .error e ∧
        target doc.contents.toDocument.raw (componentPointer name) = .error e' ∧ e.Alike e' := by
  rcases schemas?_cases hcontent hread with ⟨hnone, hraw⟩ | ⟨w, ss, hss, hraw, hw, hfs, hread'⟩
  · exact Or.inr (target_outline_of_none hcontent hread hnone hraw name)
  · have hentries := forall₂_of_toMappingOf hw hfs htexts hread'
    obtain ⟨hnames, houtlines⟩ := sound_outlineEntries hw hread'
    -- Both look the name up in a mapping whose keys are texts.
    have h := walk_name hfs htexts (componentPointer name) "#/components/schemas" name
    have h' := walk_name (fields?_namedFields houtlines) (List.forall_mem_map.mpr fun _ _ => rfl)
      (componentPointer name) "#/components/schemas" name
    have hraw' := schemasValue?_outline_of_some hcontent hread hss hnames houtlines
    rw [← resolve_of_schemasValue? hraw] at h
    rw [← resolve_of_schemasValue? hraw', get?_namedFields, lookup_outlineEntries] at h'
    have hrel := rel_lookup_of_forall₂ hentries name
    generalize hlookup : ss.lookup name = found at h' hrel
    generalize hget : (schemaEntries doc.raw).get? name = given at h hrel
    cases hrel with
    | none =>
      exact Or.inr ⟨_, _, target_of_resolve_eq_error h, target_of_resolve_eq_error h', Or.inl rfl⟩
    | @some v n hv =>
      have hmem := Fields.mem_of_get? hget
      obtain ⟨-, m, hm, hm'⟩ := read_outline_of_mem ((hw.fields hfs).2 _ hmem) hv
      exact Or.inl ⟨_, hmem, m, hm, target_of_resolve_eq_ok h hm, target_of_resolve_eq_ok h' hm'⟩

/-- **Pointers to components lead to the same schemas in the outline of a description**, without the
further entries that have no value. -/
theorem mirrors_outline (hcontent : content.WellFormed 0)
    (hread : Document.model.read content = .valid doc)
    (htexts : ∀ f ∈ schemaEntries doc.raw, f.1.str?.isSome)
    (hrefs : ∀ f ∈ schemaEntries doc.raw, ∀ x ∈ refsIn f.2, ∃ name, x = componentPointer name) :
    Mirrors (fun x => ∃ name, x = componentPointer name) (target doc.raw)
      (target doc.contents.toDocument.raw) := by
  refine ⟨?_, ?_, ?_⟩
  · rintro _ n ⟨name, rfl⟩ hn
    rcases target_outline hcontent hread htexts name with ⟨_, _, m, _, hm, hm'⟩ | ⟨e, _, he, _⟩
    · rwa [← Except.ok.inj (hm.symm.trans hn)]
    · cases he.symm.trans hn
  · rintro _ e ⟨name, rfl⟩ he
    rcases target_outline hcontent hread htexts name with
      ⟨_, _, m, _, hm, _⟩ | ⟨e₀, e', he₀, he', halike⟩
    · cases hm.symm.trans he
    · exact ⟨e', he', Except.error.inj (he₀.symm.trans he) ▸ halike⟩
  · rintro _ n ⟨name, rfl⟩ hn x hx
    rcases target_outline hcontent hread htexts name with ⟨f, hf, m, hm, hok, _⟩ | ⟨e, _, he, _⟩
    · rw [← Except.ok.inj (hok.symm.trans hn)] at hx
      exact hrefs f hf x (nodeRefs_of_read hm hx)
    · cases he.symm.trans hn

end

/-- **A reference to a component has the same type in the outline of a description as in the mapping
that the description was read from**, or fails in both at the same reference; this leaves open what
comes of a failure that names no reference.  The names of the components may not be given by their
octets, and the schemas may refer to components only, whether these are there or not. -/
theorem typeOf_outline (content : Value) (hcontent : content.WellFormed 0) (doc : Document)
    (hread : Document.model.read content = .valid doc)
    (htexts : ∀ f ∈ schemaEntries doc.raw, f.1.str?.isSome)
    (hrefs : ∀ f ∈ schemaEntries doc.raw, ∀ x ∈ refsIn f.2, ∃ name, x = componentPointer name)
    (compositions : Bool) (name : String) (r : Description.Reference)
    (hr : r.target = componentPointer name) (s s' : Session) (hs : Faithful doc.raw s)
    (hs' : Faithful doc.contents.toDocument.raw s') :
    (∃ t, (typeOf doc.raw compositions (.reference r) s).1 = .ok t ∧
        (typeOf doc.contents.toDocument.raw compositions (.reference r) s').1 = .ok t) ∨
      (∃ ref why why', (typeOf doc.raw compositions (.reference r) s).1
            = .error (.reference ref why) ∧
          (typeOf doc.contents.toDocument.raw compositions (.reference r) s').1
            = .error (.reference ref why')) ∨
        ∃ e, (typeOf doc.raw compositions (.reference r) s).1 = .error e ∧
          ∀ ref why, e ≠ .reference ref why := by
  have hmirrors := mirrors_outline hcontent hread htexts hrefs
  rcases typeOf_mirror hs hs' hmirrors r ⟨name, hr⟩ with hsame | ⟨e, e', he, he', halike⟩
  · exact Or.inl hsame
  · refine Or.inr ?_
    by_cases hnamed : ∃ ref why, e = .reference ref why
    · obtain ⟨ref, why, rfl⟩ := hnamed
      rcases halike with rfl | ⟨_, _, why', heq, rfl⟩
      · exact Or.inl ⟨ref, why, why, he, he'⟩
      · cases heq
        exact Or.inl ⟨ref, why, why', he, he'⟩
    · exact Or.inr ⟨e, he, fun ref why heq => hnamed ⟨ref, why, heq⟩⟩

/-! ### Two descriptions -/

/-- The entries of a schema that refers to itself, with a keyword of the wrong kind, a word for a
truth value, and a further entry without a value. -/
def untidyFields : Fields :=
  [(.str "x-note", .null), (.str "title", .int 5), (.str "nullable", .str "yes"),
    (.str "type", .str "object"),
    (.str "properties", .map [(.str "next", .map [(.str "$ref", .str slashedPointer)])])]

/-- The schema, as it is read. -/
def untidySchema : Node :=
  .schema ⟨none, none, some (.one "object"), none, none, some true, none, none⟩ none
    (some [("next", .reference ⟨slashedPointer, []⟩)]) none none none [("x-note", .null)]

/-- The description with this schema. -/
def untidy : Document :=
  oneSchemaDocument (.str "a/b~c") (.map untidyFields) "a/b~c" untidySchema

theorem wellFormed_untidy : (Value.map untidy.raw).WellFormed 0 := by
  simp [untidy, oneSchemaDocument, oneSchema, untidyFields, Value.WellFormed, Fields.KeysDistinct,
    WellFormedFields, WellFormedField]

/-- The outline of the description has another form, and the reference to its schema the same
type. -/
theorem typeOf_outline_untidy :
    (Value.map untidy.raw).WellFormed 0 ∧
      Document.model.read (.map untidy.raw) = .valid untidy ∧
      (∀ f ∈ schemaEntries untidy.raw, f.1.str?.isSome) ∧
      (∀ f ∈ schemaEntries untidy.raw, ∀ x ∈ refsIn f.2, ∃ name, x = componentPointer name) ∧
      slashedPointer = componentPointer "a/b~c" ∧
      (typeOf untidy.contents.toDocument.raw true (.reference ⟨slashedPointer, []⟩) .fresh).1
        = .ok (.record [⟨"next", .circular, true⟩]) := by
  have hpointer : slashedPointer = componentPointer "a/b~c" := by decide
  have hrefs : ∀ f ∈ schemaEntries untidy.raw, ∀ x ∈ refsIn f.2,
      ∃ name, x = componentPointer name := by
    intro f hf x hx
    obtain rfl := List.mem_singleton.mp hf
    obtain rfl : x = slashedPointer := List.mem_singleton.mp hx
    exact ⟨_, hpointer⟩
  have htype : (typeOf untidy.raw true (.reference ⟨slashedPointer, []⟩) .fresh).1
      = .ok (.record [⟨"next", .circular, true⟩]) := rfl
  refine ⟨wellFormed_untidy, rfl, by decide, hrefs, hpointer, ?_⟩
  rcases typeOf_outline _ wellFormed_untidy untidy rfl (by decide) hrefs true "a/b~c"
    ⟨slashedPointer, []⟩ hpointer .fresh .fresh (faithful_fresh _) (faithful_fresh _) with
    ⟨t, ht, ht'⟩ | ⟨_, _, _, he, -⟩ | ⟨e, he, -⟩
  · rwa [← Except.ok.inj (ht.symm.trans htype)]
  · cases he.symm.trans htype
  · cases he.symm.trans htype

/-- A component whose name is given by its octets is not found by a pointer, and in the outline it
is. -/
theorem typeOf_outline_octets :
    (Value.map spelledByOctets.raw).WellFormed 0 ∧
      Document.model.read (.map spelledByOctets.raw) = .valid spelledByOctets ∧
      (∀ f ∈ schemaEntries spelledByOctets.raw, ∀ x ∈ refsIn f.2,
        ∃ name, x = componentPointer name) ∧
      ¬ ((∃ t, (typeOf spelledByOctets.raw true (.reference ⟨componentPointer "Pet", []⟩)
              .fresh).1 = .ok t ∧
            (typeOf spelledByOctets.contents.toDocument.raw true
              (.reference ⟨componentPointer "Pet", []⟩) .fresh).1 = .ok t) ∨
          ∃ ref why why', (typeOf spelledByOctets.raw true
              (.reference ⟨componentPointer "Pet", []⟩) .fresh).1 = .error (.reference ref why) ∧
            (typeOf spelledByOctets.contents.toDocument.raw true
              (.reference ⟨componentPointer "Pet", []⟩) .fresh).1
                = .error (.reference ref why')) := by
  have hcontent : (Value.map spelledByOctets.raw).WellFormed 0 := by
    simp [spelledByOctets, oneSchemaDocument, oneSchema, Value.WellFormed, Fields.KeysDistinct,
      WellFormedFields, WellFormedField]
  have hrefs : ∀ f ∈ schemaEntries spelledByOctets.raw, ∀ x ∈ refsIn f.2,
      ∃ name, x = componentPointer name := by
    intro f hf x hx
    obtain rfl := List.mem_singleton.mp hf
    cases hx
  have hpointer : componentPointer "Pet" = "#/components/schemas/Pet" := by decide
  refine ⟨hcontent, rfl, hrefs, ?_⟩
  rw [hpointer]
  have hmissed : (typeOf spelledByOctets.raw true
      (.reference ⟨"#/components/schemas/Pet", []⟩) .fresh).1
        = .error (.reference "#/components/schemas/Pet"
            (some (.noSuchPlace "#/components/schemas/Pet"))) := rfl
  have hfound : (typeOf spelledByOctets.contents.toDocument.raw true
      (.reference ⟨"#/components/schemas/Pet", []⟩) .fresh).1 = .ok .string := rfl
  rintro (⟨t, ht, -⟩ | ⟨ref, why, why', -, he⟩)
  · cases hmissed.symm.trans ht
  · cases hfound.symm.trans he

end ServerActions.Reference
