import ServerActions.Proofs.Description.Document
import ServerActions.Proofs.Entries
import ServerActions.Proofs.Reference.Depth
import ServerActions.Proofs.Value.WellFormed

/-!
# Pointers to components

The schemas of the components are read from the same mapping in which references are looked up.  So
the pointer to a component leads to the schema that was read for it.  There are two exceptions.  A
name may be given by its octets, and is then read as the text they denote, while a pointer is
compared with the keys as they are; the pointer leads to such a component only by chance.  And what
a pointer leads to is read with one level less than a component, which shows in schemas that go that
deep.

## Main definitions

* `componentPointer` — the pointer to the component with a name.
* `schemaEntries` — the mapping from which the schemas of the components are read.
* `Component` — a schema of the components of a description.

## Main results

* `resolve_componentPointer` — a pointer to a component is walked from key to key.
* `target_component` — the pointer to a component leads to its schema.
-/

namespace ServerActions.Reference

open Description (Document Node Components)

/-! ### The steps of a pointer -/

/-- A step as it is written has no slash in it. -/
theorem not_mem_escape (cs : List Char) : '/' ∉ escape cs := by
  fun_induction escape cs with
  | case1 => simp
  | case2 cs ih => simp [ih]
  | case3 cs ih => simp [ih]
  | case4 c cs h h' ih =>
    have hc : c ≠ '/' := fun heq => h' heq
    simp [ih, Ne.symm hc]

/-- The pointer to the component with a name. -/
def componentPointer (name : String) : String :=
  "#/components/schemas/" ++ String.ofList (escape name.toList)

theorem toList_componentPointer (name : String) : (componentPointer name).toList = '#' :: '/' ::
    ("components".toList ++ '/' :: ("schemas".toList ++ '/' :: escape name.toList)) := by
  have hstart : "#/components/schemas/".toList
      = '#' :: '/' :: ("components".toList ++ '/' :: ("schemas".toList ++ ['/'])) := by decide
  have happend : (componentPointer name).toList
      = "#/components/schemas/".toList ++ escape name.toList :=
    (String.toList_append ..).trans (congrArg _ String.toList_ofList)
  rw [happend, hstart]
  simp only [List.cons_append, List.append_assoc, List.nil_append]

/-- The steps of the pointer are the keys on the way. -/
theorem steps_componentPointer (name : String) :
    steps ((componentPointer name).toList.drop 2) = ["components", "schemas", name] := by
  have hcomponents : unescape "components".toList = "components".toList := by decide
  have hschemas : unescape "schemas".toList = "schemas".toList := by decide
  rw [toList_componentPointer, List.drop_succ_cons, List.drop_succ_cons, List.drop_zero, steps,
    Text.cut_append (by decide), Text.cut_append (by decide),
    Text.cut_of_not_mem (not_mem_escape _)]
  simp only [List.map_cons, List.map_nil, hcomponents, hschemas, unescape_escape,
    String.ofList_toList]

/-! ### Walking to a component -/

section

variable {root entries schemas : Fields} {name : String} {components inner v : Value}

theorem stepInto_of_get? {step : String} {v inner : Value} {fs : Fields} (hfs : v.fields? = some fs)
    (h : fs.get? step = some inner) : stepInto step v = .ok (some inner) := by
  simp only [stepInto, hfs, h]

/-- A pointer to a component is walked along three steps. -/
theorem resolve_componentPointer_eq (root : Fields) (name : String) :
    resolve root (componentPointer name)
      = walk (componentPointer name) "#" (.map root) ["components", "schemas", name] := by
  have hlocal : startsWith "#/" (componentPointer name) = true := by
    have htext : "#/".toList = ['#', '/'] := by decide
    rw [startsWith, toList_componentPointer, htext, List.isPrefixOf_cons_cons,
      List.isPrefixOf_cons_cons]
    rfl
  rw [resolve_of_local hlocal, steps_componentPointer]

/-- A pointer to a component is walked from key to key. -/
theorem resolve_componentPointer (hroot : ∀ f ∈ root, f.2.WellFormed 0)
    (hcomponents : root.get? "components" = some components)
    (hentries : components.fields? = some entries) (hinner : entries.get? "schemas" = some inner)
    (hschemas : inner.fields? = some schemas) (hv : schemas.get? name = some v) :
    resolve root (componentPointer name) = .ok v := by
  simp only [resolve_componentPointer_eq, walk, stepInto_of_get? (fields?_map hroot) hcomponents,
    stepInto_of_get? hentries hinner, stepInto_of_get? hschemas hv]

end

/-! ### The components of a description -/

/-- The mapping from which the schemas of the components are read. -/
def schemaEntries (root : Fields) : Fields :=
  ((((root.get? "components").bind Value.fields?).bind (·.get? "schemas")).bind
    Value.fields?).getD []

/-- A schema that is read for a name of the components. -/
def Component (doc : Document) (name : String) (n : Node) : Prop :=
  ∃ components schemas, doc.contents.components = some components ∧
    components.schemas = some schemas ∧ schemas.lookup name = some n

/-- Only mappings describe nodes. -/
theorem isMapping_of_read {v : Value} {n : Node} (h : Node.read v = .valid n) :
    v.isMapping = true := by
  have hfields : ∃ fs, v.fields? = some fs := by
    rw [Node.read_eq] at h
    split at h
    · obtain ⟨r, hr, -⟩ := Checked.map_eq_valid.mp (Checked.under_eq_valid.mp h)
      obtain ⟨fs, hfs, -⟩ := Model.read_eq_valid.mp hr
      exact ⟨fs, hfs⟩
    · obtain ⟨fs, hfs, -⟩ := Model.read_eq_valid.mp (Checked.under_eq_valid.mp h)
      exact ⟨fs, hfs⟩
  obtain ⟨fs, hfs⟩ := hfields
  cases v with
  | map fields => rfl
  | _ => cases hfs

/-- Where a pointer leads nowhere, there is no schema. -/
theorem target_of_resolve_eq_error {root : Fields} {ref : String} {e : Failure}
    (h : resolve root ref = .error e) : target root ref = .error e := by
  rw [target_eq, h]

/-- Where a pointer leads to what is read as a node, it leads to the node. -/
theorem target_of_resolve_eq_ok {root : Fields} {ref : String} {v : Value} {n : Node}
    (h : resolve root ref = .ok v) (hn : Node.read v = .valid n) : target root ref = .ok n :=
  target_eq_ok.mpr ⟨v, h, isMapping_of_read hn, hn⟩

/-- A schema of the components is read from an entry of their mapping. -/
theorem Component.given {doc : Document} {name : String} {n : Node}
    (hcontents : Description.Contents.model.ofFields doc.raw = .valid doc.contents)
    (h : Component doc name n) :
    ∃ components entries schemas k v, doc.raw.get? "components" = some components ∧
      components.fields? = some entries ∧ entries.get? "schemas" = some schemas ∧
      schemas.fields? = some (schemaEntries doc.raw) ∧ (k, v) ∈ schemaEntries doc.raw ∧
      k.toText = .valid name ∧ Node.readAt 0 v = .valid n := by
  obtain ⟨components, schemas, hcomponents, hschemas, hlookup⟩ := h
  have hfield := (Description.Contents.fields_of_valid hcontents).2
  rw [hcomponents] at hfield
  obtain ⟨v, hv, hcomponents⟩ := Fields.optional_eq_some hfield
  obtain ⟨entries, hentries, hcomponents⟩ := Model.read_eq_valid.mp hcomponents
  have hfield := Description.Components.schemas_of_valid hcomponents
  rw [hschemas] at hfield
  obtain ⟨w, hw, hschemas⟩ := Fields.optional_eq_some hfield
  obtain ⟨fs, hfs, k, x, hmem, hk, hx⟩ := mem_toMappingOf hschemas (mem_of_lookup hlookup)
  -- What was read came from the entries that the description has under these two fields.
  have hraw : schemaEntries doc.raw = fs := by
    simp only [schemaEntries, hv, hentries, hw, hfs, Option.bind_some, Option.getD_some]
  rw [hraw]
  exact ⟨v, entries, w, k, x, hv, hentries, hw, hfs, hmem, hk, hx⟩

/-- **The pointer to a component leads to the schema that was read for it**, where the name is
spelled by texts only and the schema goes no deeper than what is read on its own. -/
theorem target_component {content : Value} {doc : Document} {name : String} {n : Node}
    (hcontent : content.WellFormed 0) (hread : Document.model.read content = .valid doc)
    (hcomponent : Component doc name n)
    (hspelled : ∀ f ∈ schemaEntries doc.raw, f.1.toText = .valid name → f.1 = .str name)
    (hfits : Fits (Description.maxDepth - 1) n) :
    target doc.raw (componentPointer name) = .ok n := by
  obtain ⟨hfields, hcontents⟩ := Description.contents_of_read hread
  obtain ⟨-, hroot⟩ := hcontent.fields hfields
  obtain ⟨components, entries, schemas, k, v, hcomponents, hentries, hschemas, hfs, hmem, hk, hv⟩ :=
    hcomponent.given hcontents
  have hwell : schemas.WellFormed 0 :=
    ((hroot _ (Fields.mem_of_get? hcomponents)).fields hentries).2 _ (Fields.mem_of_get? hschemas)
  -- Octets that spell the name would be read as it, but not be found by it.
  have hkey : k = .str name := hspelled _ hmem hk
  have hfound : (schemaEntries doc.raw).get? name = some v :=
    Fields.get?_of_mem (hwell.fields hfs).1 (hkey ▸ hmem)
  have hresolve : resolve doc.raw (componentPointer name) = .ok v :=
    resolve_componentPointer hroot hcomponents hentries hschemas hfs hfound
  exact target_of_resolve_eq_ok hresolve (readWithin_of_fits (Nat.sub_le _ _) hv hfits)

end ServerActions.Reference
