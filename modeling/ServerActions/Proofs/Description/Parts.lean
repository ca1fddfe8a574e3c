import ServerActions.Proofs.Description.Declared
import ServerActions.Proofs.Value.WellFormed

/-!
# What the parts of an operation are read from

The parameters, bodies and responses of an operation, and the schemas in them, are each read from
one place of the description, found by names and by places in lists.  A schema may be given under
one of two names; a status code may be given as a number, whose digits are the name it gets.

## Main definitions

* `Fields.under`, `Fields.inner` — the entries of the mapping under a name, and of those under all
  keys.

## Main results

* `Fields.optional_eq_some_of_has` — a field is read from its first name, unless it is given under
  the second one alone.
* `forall₂_of_toListOf` — the members of a list are read one for one.
* `givenFor?_of_get?` — an operation is found under the key that spells its method.
* `Operation.ofFields_eq_valid`, `Parameter.ofFields_eq_valid` and the others — the parts of an
  operation and of its parts are read each from its field.
* `mem_responsesOf`, `mem_contentOf` — a response and a media type are each read from one entry.
-/

namespace ServerActions

variable {α : Type}

/-! ### Fields -/

section

variable {fs : Fields} {name other : String}

/-- A field that is not as its default has it is there. -/
theorem Fields.mem_of_withDefault {β : Type} {read : Value → Checked (List β)} {bs : List β} {b : β}
    (h : fs.withDefault name [] [] read = .valid bs) (hb : b ∈ bs) :
    ∃ v, fs.get? name = some v ∧ read v = .valid bs := by
  unfold Fields.withDefault Fields.lookup Fields.lookup at h
  cases hget : fs.get? name with
  | none =>
    rw [hget] at h
    cases h
    cases hb
  | some v =>
    rw [hget] at h
    exact ⟨v, rfl, Checked.under_eq_valid.mp h⟩

/-- A field is read from its first name, unless it is given under the second one alone. -/
theorem Fields.optional_eq_some_of_has {read : Value → Checked α} {a : α}
    (h : fs.optional name [other] read = .valid (some a))
    (hname : fs.has other = true → fs.has name = true) :
    ∃ v, fs.get? name = some v ∧ read v = .valid a := by
  refine Fields.optional_eq_some ?_
  rw [← h]
  unfold Fields.optional Fields.withDefault Fields.lookup
  cases hget : fs.get? name with
  | some v => rfl
  | none =>
    -- Then it is not given under the second name either.
    have hother : fs.get? other = none := by
      rw [← Option.not_isSome_iff_eq_none]
      intro hsome
      have hfirst := hname hsome
      rw [Fields.has, hget] at hfirst
      cases hfirst
    unfold Fields.lookup
    rw [hother]
    rfl

/-- An entry is found under its key, when no key stands there twice. -/
theorem Fields.find?_of_mem (h : fs.KeysDistinct) {k : Key} {v : Value} (hmem : (k, v) ∈ fs)
    (hself : k.same k = true) : fs.find? k = some v := by
  induction fs with
  | nil => cases hmem
  | cons f fs ih =>
    rw [Fields.KeysDistinct, List.map_cons, List.pairwise_cons] at h
    rw [Fields.find?, List.find?_cons]
    rcases List.mem_cons.mp hmem with heq | hrest
    · cases heq
      rw [hself]
      rfl
    · rw [h.1 k (List.mem_map_of_mem hrest)]
      exact ih h.2 hrest

end

/-! ### Entries inside of entries -/

/-- The entries of the mapping under a name. -/
def Fields.under (fs : Fields) (name : String) : Fields :=
  ((fs.get? name).bind Value.fields?).getD []

/-- The entries of the mappings under the keys. -/
def Fields.inner (fs : Fields) : List Fields :=
  fs.filterMap fun f => f.2.fields?

section

variable {fs inner : Fields} {v : Value} {name : String}

theorem Fields.mem_inner {k : Key} (hmem : (k, v) ∈ fs) (hinner : v.fields? = some inner) :
    inner ∈ fs.inner :=
  List.mem_filterMap.mpr ⟨(k, v), hmem, hinner⟩

theorem Fields.under_of_get? (hv : fs.get? name = some v) (hinner : v.fields? = some inner) :
    fs.under name = inner := by
  rw [Fields.under, hv, Option.bind_some, hinner, Option.getD_some]

/-- Where there are entries under a name, there is a mapping. -/
theorem Fields.get?_of_mem_under {f : Key × Value} (hf : f ∈ fs.under name) :
    ∃ v, fs.get? name = some v ∧ v.fields? = some (fs.under name) := by
  cases hv : fs.get? name with
  | none =>
    rw [Fields.under, hv] at hf
    cases hf
  | some v =>
    cases hinner : v.fields? with
    | none =>
      rw [Fields.under, hv, Option.bind_some, hinner] at hf
      cases hf
    | some inner => exact ⟨v, rfl, hinner.trans (congrArg some (under_of_get? hv hinner).symm)⟩

end

/-! ### Lists -/

theorem checkItems_eq_valid {read : Value → Checked α} {index : ℕ} {vs : List Value}
    {as : List α} : checkItems read index vs = .valid as ↔
      List.Forall₂ (fun v a => read v = .valid a) vs as := by
  -- The index only names the places of faults, so it may differ from one item to the next.
  induction vs generalizing index as with
  | nil =>
    rw [checkItems, List.forall₂_nil_left_iff, Checked.valid.injEq]
    exact eq_comm
  | cons v vs ih =>
    simp only [checkItems, Checked.apply_eq_valid, Checked.map_eq_valid, Checked.under_eq_valid,
      ih, List.forall₂_cons_left_iff]
    constructor
    · rintro ⟨_, rest, ⟨a, ha, rfl⟩, hrest, rfl⟩
      exact ⟨a, rest, ha, hrest, rfl⟩
    · rintro ⟨a, rest, ha, hrest, rfl⟩
      exact ⟨_, rest, ⟨a, ha, rfl⟩, hrest, rfl⟩

/-- The members of a list are read one for one. -/
theorem forall₂_of_toListOf {read : Value → Checked α} {v : Value} {as : List α}
    (h : v.toListOf read = .valid as) :
    ∃ vs, v.items? = some vs ∧ List.Forall₂ (fun v a => read v = .valid a) vs as := by
  unfold Value.toListOf at h
  split at h
  · next vs hvs => exact ⟨vs, hvs, checkItems_eq_valid.mp h⟩
  · cases h

namespace Description

section

variable {m : Model α} {v : Value} {a : α}

/-- An object is read as its model says. -/
theorem fields_of_orReference (h : orReference m v = .valid (.object a)) :
    ∃ fs, v.fields? = some fs ∧ m.ofFields fs = .valid a := by
  unfold orReference at h
  split at h
  · obtain ⟨r, -, heq⟩ := Checked.map_eq_valid.mp (Checked.under_eq_valid.mp h)
    cases heq
  · obtain ⟨b, hb, heq⟩ := Checked.map_eq_valid.mp (Checked.under_eq_valid.mp h)
    cases heq
    exact Model.read_eq_valid.mp hb

/-- An object at a place of a list is read from what stands there; the members of a set are no
objects. -/
theorem item_of_toListOf {as : List (OrReference α)} (h : v.toListOf (orReference m) = .valid as)
    {i : ℕ} (hi : as[i]? = some (.object a)) :
    ∃ vs w fs, v.listItems? = some vs ∧ vs[i]? = some w ∧ w.fields? = some fs ∧
      m.ofFields fs = .valid a := by
  obtain ⟨vs, hvs, hread⟩ := forall₂_of_toListOf h
  obtain ⟨hlen, hread⟩ := List.forall₂_iff_get.mp hread
  obtain ⟨hlt, hget⟩ := List.getElem?_eq_some_iff.mp hi
  have hw := hread i (hlen ▸ hlt) hlt
  rw [List.get_eq_getElem, List.get_eq_getElem, hget] at hw
  have hlt' : i < vs.length := hlen ▸ hlt
  obtain ⟨fs, hfs, ha⟩ := fields_of_orReference hw
  refine ⟨vs, vs[i], fs, ?_, List.getElem?_eq_getElem hlt', hfs, ha⟩
  cases v with
  | list items => exact hvs
  | set members =>
    -- The members of a set are scalars, and no object is read from one.
    obtain rfl := Option.some.inj hvs
    obtain ⟨k, -, hk⟩ := List.mem_map.mp (List.getElem_mem hlt')
    change ((members.map Key.toValue)[i]).fields? = some fs at hfs
    rw [← hk] at hfs
    cases k <;> cases hfs
  | _ => cases hvs

end

/-! ### Paths and operations -/

section

variable {fs : Fields}

/-- A key that is neither a method nor the key of operations is there beside them. -/
theorem get?_of_otherEntries (hfs : fs.KeysDistinct) {name : String} {v : Value}
    (h : (otherEntries fs).get? name = some v) : fs.get? name = some v :=
  Fields.get?_of_mem hfs (List.mem_filter.mp (Fields.mem_of_get? h)).1

/-- The parameters of a path are read from their field. -/
theorem PathItem.parameters_of_valid {item : PathItem}
    (h : PathItem.model.ofFields fs = .valid item) (hfs : fs.KeysDistinct)
    {ps : List (OrReference Parameter)} (hps : item.parameters = some ps) :
    ∃ v, fs.get? "parameters" = some v ∧
      v.toListOf (orReference Parameter.innerModel) = .valid ps := by
  obtain ⟨-, -, hparameters, -⟩ := PathItem.ofFields_eq_valid.mp h
  rw [hps] at hparameters
  obtain ⟨v, hv, hread⟩ := Fields.optional_eq_some hparameters
  exact ⟨v, get?_of_otherEntries hfs hv, hread⟩

/-- The parts of an operation are read each from its field. -/
theorem Operation.ofFields_eq_valid {o : Operation} : Operation.model.ofFields fs = .valid o ↔
    fs.optional "tags" [] (Value.toListOf Value.toText) = .valid o.tags ∧
      fs.optional "summary" [] Value.toText = .valid o.summary ∧
      fs.optional "description" [] Value.toText = .valid o.description ∧
      fs.optional "operationId" [] Value.toText = .valid o.operationId ∧
      fs.optional "parameters" [] (Value.toListOf (orReference Parameter.innerModel))
        = .valid o.parameters ∧
      fs.optional "requestBody" [] (orReference RequestBody.innerModel) = .valid o.requestBody ∧
      fs.withDefault "responses" [] [] responsesOf = .valid o.responses ∧
      fs.withDefault "deprecated" [] false Value.toTruth = .valid o.deprecated ∧
      fs.undeclared
        [["tags"], ["summary"], ["description"], ["operationId"], ["parameters"], ["requestBody"],
          ["responses"], ["deprecated"]] = .valid o.extras := by
  constructor
  · simp only [Operation.model, Fields.ifNamed_seq_eq_valid, Checked.seq_eq_valid,
      Checked.fmap_eq_valid]
    rintro ⟨_, _, ⟨_, _, ⟨_, _, ⟨_, _, ⟨_, _, ⟨_, _, ⟨_, _, ⟨_, _, ⟨_, htags, rfl⟩, hsummary, rfl⟩,
      hdescription, rfl⟩, hid, rfl⟩, hparameters, rfl⟩, hbody, rfl⟩, hresponses, rfl⟩, hdeprecated,
      rfl⟩, hextras, rfl⟩
    exact ⟨htags, hsummary, hdescription, hid, hparameters, hbody, hresponses, hdeprecated, hextras⟩
  · rintro
      ⟨htags, hsummary, hdescription, hid, hparameters, hbody, hresponses, hdeprecated, hextras⟩
    refine Fields.ifNamed_seq_eq_valid.mpr
      ⟨Operation.mk o.tags o.summary o.description o.operationId o.parameters o.requestBody
        o.responses o.deprecated, _, ?_, hextras, rfl⟩
    rw [htags, hsummary, hdescription, hid, hparameters, hbody, hresponses, hdeprecated]
    rfl

/-- The parameters, the body and the responses of an operation are read from their fields. -/
theorem Operation.fields_of_valid {o : Operation} (h : Operation.model.ofFields fs = .valid o) :
    fs.optional "parameters" [] (Value.toListOf (orReference Parameter.innerModel))
        = .valid o.parameters ∧
      fs.optional "requestBody" [] (orReference RequestBody.innerModel) = .valid o.requestBody ∧
      fs.withDefault "responses" [] [] responsesOf = .valid o.responses := by
  obtain ⟨-, -, -, -, hparameters, hbody, hresponses, -⟩ := Operation.ofFields_eq_valid.mp h
  exact ⟨hparameters, hbody, hresponses⟩

/-- The entries of a path are given under its name. -/
theorem mem_pathEntries {root entries : Fields} {path : String} :
    (path, entries) ∈ pathEntries root ↔ ∃ v, (Key.str path, v) ∈ root.under "paths" ∧
      isPathKey (.str path) = true ∧ v.fields?.getD [] = entries := by
  rw [pathEntries, List.mem_filterMap]
  constructor
  · rintro ⟨⟨k, v⟩, hmem, hpath⟩
    obtain ⟨hmem, hkey⟩ := List.mem_filter.mp hmem
    cases k with
    | str s =>
      cases hpath
      exact ⟨v, hmem, hkey, rfl⟩
    | _ => cases hpath
  · rintro ⟨v, hmem, hkey, rfl⟩
    exact ⟨(.str path, v), List.mem_filter.mpr ⟨hmem, hkey⟩, rfl⟩

/-- Where no method is named twice, the operation of a method is what is given for its name. -/
theorem givenFor?_of_get? (hmethods : (fs.filterMap fun f => methodOf? f.1).Nodup)
    {key method : String} {v : Value} (hv : fs.get? key = some v)
    (hkey : methodOf? (.str key) = some method) : givenFor? fs method = some v := by
  have hnodup : ((methodEntriesOf fs).map Prod.fst).Nodup := by rwa [map_fst_methodEntriesOf]
  have hmem : (method, v) ∈ methodEntriesOf fs :=
    List.mem_filterMap.mpr ⟨(.str key, v), Fields.mem_of_get? hv, by rw [hkey]; rfl⟩
  have hput : method ∈ (putEach [] (methodEntriesOf fs)).map Prod.fst := by
    rw [map_fst_putEach, List.mem_eraseDups]
    exact List.mem_map_of_mem hmem
  obtain ⟨p, hp, hname⟩ := List.mem_map.mp hput
  -- Only one of the entries that are put names the method.
  obtain rfl : p = (method, v) :=
    List.inj_on_of_nodup_map hnodup (mem_of_mem_putEach hp) hmem hname
  rw [← lookup_methodEntriesOf]
  exact lookup_of_mem_putEach hp

/-! ### Schemas -/

/-- The parts of a parameter are read each from its field. -/
theorem Parameter.ofFields_eq_valid {depth : ℕ} {p : Parameter} :
    (Parameter.modelAt depth).ofFields fs = .valid p ↔
      fs.required "name" [] Value.toText = .valid p.name ∧
      fs.required "in" ["in_"] Value.toPlace = .valid p.place ∧
      fs.optional "description" [] Value.toText = .valid p.description ∧
      fs.withDefault "required" [] false Value.toTruth = .valid p.required ∧
      fs.withDefault "deprecated" [] false Value.toTruth = .valid p.deprecated ∧
      fs.optional "schema" ["schema_"] (Node.readAt depth) = .valid p.schema ∧
      fs.undeclared
        [["name"], ["in", "in_"], ["description"], ["required"], ["deprecated"], schemaNames]
          = .valid p.extras := by
  constructor
  · simp only [Parameter.modelAt, Fields.ifNamed_seq_eq_valid, Checked.seq_eq_valid,
      Checked.fmap_eq_valid]
    rintro ⟨_, _, ⟨_, _, ⟨_, _, ⟨_, _, ⟨_, _, ⟨_, _, ⟨_, hname, rfl⟩, hplace, rfl⟩, hdescription,
      rfl⟩, hrequired, rfl⟩, hdeprecated, rfl⟩, hschema, rfl⟩, hextras, rfl⟩
    exact ⟨hname, hplace, hdescription, hrequired, hdeprecated, hschema, hextras⟩
  · rintro ⟨hname, hplace, hdescription, hrequired, hdeprecated, hschema, hextras⟩
    refine Fields.ifNamed_seq_eq_valid.mpr
      ⟨Parameter.mk p.name p.place p.description p.required p.deprecated p.schema, _, ?_, hextras,
        rfl⟩
    rw [hname, hplace, hdescription, hrequired, hdeprecated, hschema]
    rfl

/-- The schema of a parameter is read from its field. -/
theorem Parameter.schema_of_valid {depth : ℕ} {p : Parameter}
    (h : (Parameter.modelAt depth).ofFields fs = .valid p) :
    fs.optional "schema" ["schema_"] (Node.readAt depth) = .valid p.schema := by
  obtain ⟨-, -, -, -, -, hschema, -⟩ := Parameter.ofFields_eq_valid.mp h
  exact hschema

/-- The schema of a media type is read from its field. -/
theorem MediaType.ofFields_eq_valid {depth : ℕ} {t : MediaType} :
    (MediaType.modelAt depth).ofFields fs = .valid t ↔
      fs.optional "schema" ["schema_"] (Node.readAt depth) = .valid t.schema ∧
      fs.undeclared [schemaNames] = .valid t.extras := by
  constructor
  · simp only [MediaType.modelAt, Fields.ifNamed_seq_eq_valid, Checked.fmap_eq_valid]
    rintro ⟨_, _, ⟨_, hschema, rfl⟩, hextras, rfl⟩
    exact ⟨hschema, hextras⟩
  · rintro ⟨hschema, hextras⟩
    refine Fields.ifNamed_seq_eq_valid.mpr ⟨MediaType.mk t.schema, _, ?_, hextras, rfl⟩
    rw [hschema]
    rfl

/-- The schema of a media type is read from its field. -/
theorem MediaType.schema_of_valid {depth : ℕ} {t : MediaType}
    (h : (MediaType.modelAt depth).ofFields fs = .valid t) :
    fs.optional "schema" ["schema_"] (Node.readAt depth) = .valid t.schema :=
  (MediaType.ofFields_eq_valid.mp h).1

/-! ### Bodies and responses -/

/-- The parts of a body are read each from its field. -/
theorem RequestBody.ofFields_eq_valid {depth : ℕ} {b : RequestBody} :
    (RequestBody.modelAt depth).ofFields fs = .valid b ↔
      fs.optional "description" [] Value.toText = .valid b.description ∧
      fs.withDefault "content" [] [] (contentOf depth) = .valid b.content ∧
      fs.withDefault "required" [] false Value.toTruth = .valid b.required ∧
      fs.undeclared [["description"], ["content"], ["required"]] = .valid b.extras := by
  constructor
  · simp only [RequestBody.modelAt, Fields.ifNamed_seq_eq_valid, Checked.seq_eq_valid,
      Checked.fmap_eq_valid]
    rintro ⟨_, _, ⟨_, _, ⟨_, _, ⟨_, hdescription, rfl⟩, hcontent, rfl⟩, hrequired, rfl⟩, hextras,
      rfl⟩
    exact ⟨hdescription, hcontent, hrequired, hextras⟩
  · rintro ⟨hdescription, hcontent, hrequired, hextras⟩
    refine Fields.ifNamed_seq_eq_valid.mpr
      ⟨RequestBody.mk b.description b.content b.required, _, ?_, hextras, rfl⟩
    rw [hdescription, hcontent, hrequired]
    rfl

/-- The media types of a body are read from their field. -/
theorem RequestBody.content_of_valid {depth : ℕ} {b : RequestBody}
    (h : (RequestBody.modelAt depth).ofFields fs = .valid b) :
    fs.withDefault "content" [] [] (contentOf depth) = .valid b.content :=
  (RequestBody.ofFields_eq_valid.mp h).2.1

/-- The parts of a response are read each from its field. -/
theorem Response.ofFields_eq_valid {depth : ℕ} {r : Response} :
    (Response.modelAt depth).ofFields fs = .valid r ↔
      fs.optional "description" [] Value.toText = .valid r.description ∧
      fs.optional "content" [] (contentOf depth) = .valid r.content ∧
      fs.undeclared [["description"], ["content"]] = .valid r.extras := by
  constructor
  · simp only [Response.modelAt, Fields.ifNamed_seq_eq_valid, Checked.seq_eq_valid,
      Checked.fmap_eq_valid]
    rintro ⟨_, _, ⟨_, _, ⟨_, hdescription, rfl⟩, hcontent, rfl⟩, hextras, rfl⟩
    exact ⟨hdescription, hcontent, hextras⟩
  · rintro ⟨hdescription, hcontent, hextras⟩
    refine Fields.ifNamed_seq_eq_valid.mpr
      ⟨Response.mk r.description r.content, _, ?_, hextras, rfl⟩
    rw [hdescription, hcontent]
    rfl

/-- The media types of a response are read from their field. -/
theorem Response.content_of_valid {depth : ℕ} {r : Response}
    (h : (Response.modelAt depth).ofFields fs = .valid r) :
    fs.optional "content" [] (contentOf depth) = .valid r.content :=
  (Response.ofFields_eq_valid.mp h).2.1

/-- A media type is read from an entry of the mapping. -/
theorem mem_contentOf {depth : ℕ} {v : Value} {content : List (String × MediaType)}
    (h : contentOf depth v = .valid content) {name : String} {t : MediaType}
    (hmem : (name, t) ∈ content) :
    ∃ fs k w, v.fields? = some fs ∧ (k, w) ∈ fs ∧ k.toText = .valid name ∧
      ∃ inner, w.fields? = some inner ∧ (MediaType.modelAt depth).ofFields inner = .valid t := by
  obtain ⟨fs, hfs, k, w, hw, hk, hread⟩ := mem_toMappingOf h hmem
  exact ⟨fs, k, w, hfs, hw, hk, Model.read_eq_valid.mp hread⟩

/-- An entry of a mapping whose keys were made texts was there under a key with that text. -/
theorem mem_withTextKeys {k : Key} {v : Value} (h : (k, v) ∈ withTextKeys fs) :
    ∃ k', (k', v) ∈ fs ∧ k = .str k'.shown := by
  let es := fs.map fun f => (f.1.shown, f.2)
  have hnamed : withTextKeys fs = namedFields (putEach [] es) := by
    rw [← ofList_namedFields, withTextKeys, namedFields, List.map_map]
    rfl
  rw [hnamed] at h
  obtain ⟨e, he, heq⟩ := List.mem_map.mp h
  obtain ⟨f, hf, rfl⟩ := List.mem_map.mp (mem_of_mem_putEach he)
  obtain ⟨rfl, rfl⟩ := Prod.mk.inj heq
  exact ⟨f.1, hf, rfl⟩

/-- A response is read from an entry of the mapping, whose key is spelled as its status code. -/
theorem mem_responsesOf {v : Value} {rs : List (String × OrReference Response)}
    (h : responsesOf v = .valid rs) {status : String} {r : Response}
    (hmem : (status, .object r) ∈ rs) :
    ∃ fs k w, v.fields? = some fs ∧ (k, w) ∈ fs ∧ k.shown = status ∧ isTooLong k = false ∧
      ∃ inner, w.fields? = some inner ∧ Response.innerModel.ofFields inner = .valid r := by
  unfold responsesOf at h
  split at h
  · cases h
    cases hmem
  · split at h
    · next fs hfs =>
      split at h
      · cases h
      · next hshort =>
        obtain ⟨k, w, hw, hk, hread⟩ := mem_checkEntries h hmem
        obtain ⟨k', hmem', rfl⟩ := mem_withTextKeys hw
        refine ⟨fs, k', w, hfs, hmem', Checked.valid.inj hk, ?_, fields_of_orReference hread⟩
        exact Bool.eq_false_iff.mpr fun hlong => hshort (List.any_eq_true.mpr ⟨_, hmem', hlong⟩)
    · cases h

end

end Description

end ServerActions
