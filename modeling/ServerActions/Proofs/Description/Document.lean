import ServerActions.Loading.Check
import ServerActions.Proofs.Checked

/-!
# What is read from a description

The paths of a description begin with a slash, and the operations of a path are named by methods.

## Main definitions

* `Document.Declares` — an operation of a path of a description.

## Main results

* `mem_checkEntries` — what is read from a mapping was read from one of its entries.
* `Contents.ofFields_eq_valid`, `Components.ofFields_eq_valid`, `PathItem.ofFields_eq_valid` — the
  parts of a description, of its components and of a path are read each from its field.
* `Document.Declares.of_check` — the paths and the methods of a description that was checked.
-/

namespace ServerActions

variable {α : Type}

/-! ### Entries that are read -/

theorem checkEntries_cons_eq_valid {read : Value → Checked α} {k : Key} {v : Value} {fs : Fields}
    {es : List (String × α)} :
    checkEntries read ((k, v) :: fs) = .valid es ↔ ∃ name a rest, k.toText = .valid name ∧
      read v = .valid a ∧ checkEntries read fs = .valid rest ∧ (name, a) :: rest = es := by
  rw [checkEntries, Checked.apply_eq_valid]
  constructor
  · rintro ⟨_, rest, hentry, hrest, rfl⟩
    obtain ⟨_, hpair, rfl⟩ := Checked.map_eq_valid.mp hentry
    obtain ⟨_, a, hkey, ha, rfl⟩ := Checked.apply_eq_valid.mp hpair
    obtain ⟨name, hname, rfl⟩ := Checked.map_eq_valid.mp hkey
    exact ⟨name, a, rest, hname, Checked.under_eq_valid.mp ha, hrest, rfl⟩
  · rintro ⟨name, a, rest, hname, ha, hrest, rfl⟩
    refine ⟨_, rest, Checked.map_eq_valid.mpr ⟨(name, a), ?_, rfl⟩, hrest, rfl⟩
    exact Checked.apply_eq_valid.mpr
      ⟨_, a, Checked.map_eq_valid.mpr ⟨name, hname, rfl⟩, Checked.under_eq_valid.mpr ha, rfl⟩

/-- What is read from a mapping was read from one of its entries. -/
theorem mem_checkEntries {read : Value → Checked α} {fs : Fields} {es : List (String × α)}
    (h : checkEntries read fs = .valid es) {name : String} {a : α} (ha : (name, a) ∈ es) :
    ∃ k v, (k, v) ∈ fs ∧ k.toText = .valid name ∧ read v = .valid a := by
  induction fs generalizing es with
  | nil =>
    cases h
    cases ha
  | cons f fs ih =>
    obtain ⟨k, v⟩ := f
    obtain ⟨name', a', rest, hname, ha', hrest, rfl⟩ := checkEntries_cons_eq_valid.mp h
    rcases List.mem_cons.mp ha with heq | ha
    · cases heq
      exact ⟨k, v, List.mem_cons_self .., hname, ha'⟩
    · obtain ⟨k, v, hmem, hk, hv⟩ := ih hrest ha
      exact ⟨k, v, List.mem_cons_of_mem _ hmem, hk, hv⟩

theorem putNamed_eq_putBy (name : String) (a : α) (es : List (String × α)) :
    putNamed name a es = putBy (fun k k' => decide (k = k')) (name, a) es := by
  induction es with
  | nil => rfl
  | cons e es ih =>
    by_cases he : e.1 = name
    · simp only [putNamed, putBy, he, decide_true, if_true]
    · simp only [putNamed, putBy, he, decide_false, if_false, Bool.false_eq_true, ih]

theorem oncePerName_eq (es : List (String × α)) : oncePerName es = putEach [] es := by
  simp only [oncePerName, putEach, putNamed_eq_putBy]

/-- What stands under a name after an entry was put is the entry, or stood there before. -/
theorem mem_of_mem_putNamed {name : String} {a : α} {es : List (String × α)} {e : String × α}
    (h : e ∈ putNamed name a es) : e = (name, a) ∨ e ∈ es := by
  rw [putNamed_eq_putBy] at h
  rcases mem_of_mem_putBy h with h | h | ⟨hname, ha⟩
  · exact Or.inr h
  · exact Or.inl h
  · exact Or.inl (Prod.ext (of_decide_eq_true hname) ha)

/-- Where each name is kept once, every entry is one of those given. -/
theorem mem_of_mem_oncePerName {entries : List (String × α)} {e : String × α}
    (h : e ∈ oncePerName entries) : e ∈ entries := by
  refine List.foldlRecOn (motive := fun es : List (String × α) => ∀ e ∈ es, e ∈ entries) entries
    _ (fun _ he => absurd he List.not_mem_nil) (fun es hes e₀ he₀ e he => ?_) e h
  rcases mem_of_mem_putNamed he with rfl | he
  · exact he₀
  · exact hes e he

/-- A mapping is read entry by entry, with each name once. -/
theorem toMappingOf_eq_valid {read : Value → Checked α} {v : Value} {es : List (String × α)} :
    v.toMappingOf read = .valid es ↔ ∃ fs entries, v.fields? = some fs ∧
      checkEntries read fs = .valid entries ∧ oncePerName entries = es := by
  unfold Value.toMappingOf
  cases v.fields? <;> simp [Checked.map_eq_valid]

/-- What is read from a mapping with each name once was read from one of its entries. -/
theorem mem_toMappingOf {read : Value → Checked α} {v : Value} {es : List (String × α)}
    (h : v.toMappingOf read = .valid es) {name : String} {a : α} (ha : (name, a) ∈ es) :
    ∃ fs, v.fields? = some fs ∧ ∃ k w, (k, w) ∈ fs ∧ k.toText = .valid name ∧
      read w = .valid a := by
  obtain ⟨fs, entries, hfs, hentries, rfl⟩ := toMappingOf_eq_valid.mp h
  exact ⟨fs, hfs, mem_checkEntries hentries (mem_of_mem_oncePerName ha)⟩

/-- A field that is read is there under its name. -/
theorem Fields.optional_eq_some {fs : Fields} {name : String} {read : Value → Checked α} {a : α}
    (h : fs.optional name [] read = .valid (some a)) :
    ∃ v, fs.get? name = some v ∧ read v = .valid a := by
  unfold Fields.optional Fields.withDefault Fields.lookup at h
  cases hget : fs.get? name with
  | none =>
    rw [hget] at h
    cases h
  | some v =>
    rw [hget] at h
    refine ⟨v, rfl, ?_⟩
    have hnullable := Checked.under_eq_valid.mp h
    unfold Value.toNullable at hnullable
    split at hnullable
    · cases hnullable
    · obtain ⟨b, hb, heq⟩ := Checked.map_eq_valid.mp hnullable
      rw [hb, Option.some.inj heq]

/-- A field that was read as absent is not there, or has no value. -/
theorem Fields.get?_of_optional_eq_none {fs : Fields} {name : String}
    {read : Value → Checked α} (h : fs.optional name [] read = .valid none) :
    fs.get? name = none ∨ fs.get? name = some .null := by
  unfold Fields.optional Fields.withDefault Fields.lookup at h
  cases hget : fs.get? name with
  | none => exact Or.inl rfl
  | some v =>
    rw [hget] at h
    have hnullable := Checked.under_eq_valid.mp h
    unfold Value.toNullable at hnullable
    split at hnullable
    · exact Or.inr rfl
    · obtain ⟨a, -, ha⟩ := Checked.map_eq_valid.mp hnullable
      cases ha

/-- A key in a mapping with one more entry is the new one, or was there. -/
theorem Fields.mem_keys_insert {fs : Fields} {k k' : Key} {v : Value}
    (h : k' ∈ (fs.insert k v).map Prod.fst) : k' = k ∨ k' ∈ fs.map Prod.fst := by
  rw [Fields.insert_eq_putBy] at h
  rcases map_fst_putBy (k, v) fs with heq | ⟨-, heq⟩
  · exact Or.inr (heq ▸ h)
  · rw [heq] at h
    exact (List.mem_append.mp h).symm.imp_left List.mem_singleton.mp

/-- A key in a mapping that was built is one of those it was built from. -/
theorem Fields.mem_keys_ofList {entries : List (Key × Value)} {k : Key}
    (h : k ∈ (Fields.ofList entries).map Prod.fst) : k ∈ entries.map Prod.fst := by
  refine List.foldlRecOn
    (motive := fun fs : Fields => ∀ k ∈ fs.map Prod.fst, k ∈ entries.map Prod.fst)
    entries _ (fun _ hk => absurd hk List.not_mem_nil) (fun fs hfs e he k hk => ?_) k h
  rcases Fields.mem_keys_insert hk with rfl | hk
  · exact List.mem_map_of_mem he
  · exact hfs k hk

namespace Description

/-! ### The parts of a description -/

/-- The parts of a description are read each from its field. -/
theorem Contents.ofFields_eq_valid {fs : Fields} {c : Contents} :
    Contents.model.ofFields fs = .valid c ↔
      fs.optional "openapi" [] Value.toText = .valid c.openapi ∧
      fs.optional "info" [] Value.toNamed = .valid c.info ∧
      fs.optional "servers" [] (Value.toListOf Value.toNamed) = .valid c.servers ∧
      fs.withDefault "paths" [] [] pathsOf = .valid c.paths ∧
      fs.optional "components" [] Components.model.read = .valid c.components ∧
      fs.undeclared [["openapi"], ["info"], ["servers"], ["paths"], ["components"]]
        = .valid c.extras := by
  constructor
  · simp only [Contents.model, Fields.ifNamed_seq_eq_valid, Checked.seq_eq_valid,
      Checked.fmap_eq_valid]
    rintro ⟨_, _, ⟨_, _, ⟨_, _, ⟨_, _, ⟨_, _, ⟨_, hopenapi, rfl⟩, hinfo, rfl⟩, hservers, rfl⟩,
      hpaths, rfl⟩, hcomponents, rfl⟩, hextras, rfl⟩
    exact ⟨hopenapi, hinfo, hservers, hpaths, hcomponents, hextras⟩
  · rintro ⟨hopenapi, hinfo, hservers, hpaths, hcomponents, hextras⟩
    refine Fields.ifNamed_seq_eq_valid.mpr
      ⟨Contents.mk c.openapi c.info c.servers c.paths c.components, _, ?_, hextras, rfl⟩
    rw [hopenapi, hinfo, hservers, hpaths, hcomponents]
    rfl

/-- The paths and the components of a description are read from its fields. -/
theorem Contents.fields_of_valid {fs : Fields} {c : Contents}
    (h : Contents.model.ofFields fs = .valid c) :
    fs.withDefault "paths" [] [] pathsOf = .valid c.paths ∧
      fs.optional "components" [] Components.model.read = .valid c.components := by
  obtain ⟨-, -, -, hpaths, hcomponents, -⟩ := Contents.ofFields_eq_valid.mp h
  exact ⟨hpaths, hcomponents⟩

/-- The kinds of components are read each from its field. -/
theorem Components.ofFields_eq_valid {fs : Fields} {c : Components} :
    Components.model.ofFields fs = .valid c ↔
      fs.optional "schemas" [] (Value.toMappingOf (Node.readAt 0)) = .valid c.schemas ∧
      fs.optional "parameters" [] (Value.toMappingOf (orReference Parameter.innerModel))
        = .valid c.parameters ∧
      fs.optional "requestBodies" [] (Value.toMappingOf (orReference RequestBody.innerModel))
        = .valid c.requestBodies ∧
      fs.optional "responses" [] (Value.toMappingOf (orReference Response.innerModel))
        = .valid c.responses ∧
      fs.undeclared [["schemas"], ["parameters"], ["requestBodies"], ["responses"]]
        = .valid c.extras := by
  constructor
  · simp only [Components.model, Fields.ifNamed_seq_eq_valid, Checked.seq_eq_valid,
      Checked.fmap_eq_valid]
    rintro ⟨_, _, ⟨_, _, ⟨_, _, ⟨_, _, ⟨_, hschemas, rfl⟩, hparameters, rfl⟩, hbodies, rfl⟩,
      hresponses, rfl⟩, hextras, rfl⟩
    exact ⟨hschemas, hparameters, hbodies, hresponses, hextras⟩
  · rintro ⟨hschemas, hparameters, hbodies, hresponses, hextras⟩
    refine Fields.ifNamed_seq_eq_valid.mpr
      ⟨Components.mk c.schemas c.parameters c.requestBodies c.responses, _, ?_, hextras, rfl⟩
    rw [hschemas, hparameters, hbodies, hresponses]
    rfl

/-- The schemas of the components are read from their fields. -/
theorem Components.schemas_of_valid {fs : Fields} {c : Components}
    (h : Components.model.ofFields fs = .valid c) :
    fs.optional "schemas" [] (Value.toMappingOf (Node.readAt 0)) = .valid c.schemas :=
  (Components.ofFields_eq_valid.mp h).1

/-- The parts of a path are read each from its field, and its operations from the entries named by
methods. -/
theorem PathItem.ofFields_eq_valid {fs : Fields} {item : PathItem} :
    PathItem.model.ofFields fs = .valid item ↔
      (otherEntries fs).optional "summary" [] Value.toText = .valid item.summary ∧
      (otherEntries fs).optional "description" [] Value.toText = .valid item.description ∧
      (otherEntries fs).optional "parameters" [] (Value.toListOf (orReference Parameter.innerModel))
        = .valid item.parameters ∧
      checkEntries Operation.model.read (methodEntries fs) = .valid item.operations ∧
      (otherEntries fs).undeclared [["summary"], ["description"], ["parameters"]]
        = .valid item.extras := by
  constructor
  · simp only [PathItem.model, Fields.ifNamed_seq_eq_valid, Checked.seq_eq_valid,
      Checked.fmap_eq_valid, Checked.under_eq_valid]
    rintro ⟨_, _, ⟨_, _, ⟨_, _, ⟨_, _, ⟨_, hsummary, rfl⟩, hdescription, rfl⟩, hparameters, rfl⟩,
      hoperations, rfl⟩, hextras, rfl⟩
    exact ⟨hsummary, hdescription, hparameters, hoperations, hextras⟩
  · rintro ⟨hsummary, hdescription, hparameters, hoperations, hextras⟩
    refine Fields.ifNamed_seq_eq_valid.mpr
      ⟨PathItem.mk item.summary item.description item.parameters item.operations, _, ?_, hextras,
        rfl⟩
    rw [hsummary, hdescription, hparameters, hoperations, Checked.under_valid]
    rfl

/-- The operations of a path are read from the entries named by methods. -/
theorem PathItem.operations_of_valid {fs : Fields} {item : PathItem}
    (h : PathItem.model.ofFields fs = .valid item) :
    checkEntries Operation.model.read (methodEntries fs) = .valid item.operations :=
  (PathItem.ofFields_eq_valid.mp h).2.2.2.1

/-- What is read from a description. -/
theorem contents_of_read {v : Value} {doc : Document} (h : Document.model.read v = .valid doc) :
    v.fields? = some doc.raw ∧ Contents.model.ofFields doc.raw = .valid doc.contents := by
  obtain ⟨fs, hfs, hdoc⟩ := Model.read_eq_valid.mp h
  obtain ⟨contents, hcontents, rfl⟩ := Checked.map_eq_valid.mp hdoc
  exact ⟨hfs, hcontents⟩

/-- What is read from a description that was checked. -/
theorem contents_of_check {source : String} {v : Value} {doc : Document}
    (h : Loading.check source v = .ok doc) :
    v.fields? = some doc.raw ∧ Contents.model.ofFields doc.raw = .valid doc.contents := by
  unfold Loading.check at h
  cases hfields : v.fields? with
  | none =>
    rw [hfields] at h
    cases h
  | some fs =>
    simp only [hfields] at h
    split at h
    · cases h
    · split at h
      · next hread =>
        cases h
        rw [← hfields]
        exact contents_of_read (Model.read_eq_valid.mpr ⟨fs, hfields, hread⟩)
      · cases h

/-! ### Paths and methods -/

/-- A path is read from a field whose key is a text that begins with a slash. -/
theorem mem_pathsOf {v : Value} {paths : List (String × PathItem)} (h : pathsOf v = .valid paths)
    {path : String} {item : PathItem} (hmem : (path, item) ∈ paths) :
    path.toList.head? = some '/' ∧ ∃ entry, PathItem.model.read entry = .valid item := by
  unfold pathsOf at h
  split at h
  · cases h
    cases hmem
  · split at h
    · obtain ⟨k, entry, hfield, hk, hread⟩ := mem_checkEntries h hmem
      refine ⟨?_, entry, hread⟩
      have hslash := (List.mem_filter.mp hfield).2
      cases k with
      | str s =>
        cases hk
        exact of_decide_eq_true hslash
      | _ => cases hslash
    · cases h

/-- A method is named by one of the entries that are kept for operations. -/
theorem method_mem_of_mem_keys {fs : Fields} {k : Key}
    (h : k ∈ (methodEntries fs).map Prod.fst) : ∃ m ∈ methods, k = .str m := by
  obtain ⟨e, he, rfl⟩ := List.mem_map.mp (Fields.mem_keys_ofList h)
  obtain ⟨f, -, hf⟩ := List.mem_filterMap.mp he
  obtain ⟨m, hm, rfl⟩ := Option.map_eq_some_iff.mp hf
  refine ⟨m, ?_, rfl⟩
  unfold methodOf? at hm
  split at hm
  · dsimp only at hm
    split at hm
    · next hmem =>
      cases hm
      exact hmem
    · cases hm
  · cases hm

/-- An operation of a path of a description. -/
def Document.Declares (doc : Document) (path method : String) (o : Operation) : Prop :=
  ∃ item, (path, item) ∈ doc.contents.paths ∧ (method, o) ∈ item.operations

/-- **The paths of a description that was checked begin with a slash, and its operations are named
by methods.** -/
theorem Document.Declares.of_check {source : String} {v : Value} {doc : Document}
    (h : Loading.check source v = .ok doc) {path method : String} {o : Operation}
    (hdeclares : doc.Declares path method o) :
    path.toList.head? = some '/' ∧ method ∈ methods := by
  obtain ⟨item, hpath, hmethod⟩ := hdeclares
  obtain ⟨hpaths, -⟩ := Contents.fields_of_valid (contents_of_check h).2
  obtain ⟨hslash, entry, hitem⟩ : path.toList.head? = some '/' ∧
      ∃ entry, PathItem.model.read entry = .valid item := by
    unfold Fields.withDefault at hpaths
    split at hpaths
    · exact mem_pathsOf (Checked.under_eq_valid.mp hpaths) hpath
    · rw [← Checked.valid.inj hpaths] at hpath
      cases hpath
  refine ⟨hslash, ?_⟩
  obtain ⟨fs, -, hfs⟩ := Model.read_eq_valid.mp hitem
  obtain ⟨k, _, hfield, hk, -⟩ := mem_checkEntries (PathItem.operations_of_valid hfs) hmethod
  obtain ⟨m, hm, rfl⟩ := method_mem_of_mem_keys (List.mem_map_of_mem hfield)
  cases hk
  exact hm

end Description

end ServerActions
