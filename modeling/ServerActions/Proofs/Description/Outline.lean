import ServerActions.Description.Outline
import ServerActions.Proofs.Description.Containment
import ServerActions.Proofs.Description.Parts

/-!
# Outlines as mappings

What a model is laid out as is a mapping again: first its fields, under their names, then the
further entries that have a value.  Nothing is mixed up in it as long as no further entry has the
name of a field, and then each field is found there as it was laid out.

## Main definitions

* `givenExtras`, `laidOut` — the further entries with a value, and the entries that a model is laid
  out as.
* `SoundExtras` — further entries as they come of reading a mapping.
* `KeywordValue.outline`, `keywordOutlines` — the outlines of the keywords of a node.

## Main results

* `forall₂_of_toMappingOf` — a mapping whose names are texts is read entry by entry.
* `soundExtras_of_undeclared` — the entries that are no fields are sound.
* `get?_laidOut`, `undeclared_laidOut` — the fields and the further entries of what is laid out.
* `outline_schema` — a schema is laid out keyword by keyword.
-/

namespace ServerActions

variable {α : Type}

/-! ### Mappings with texts as keys -/

theorem namedFields_append (es fs : List (String × Value)) :
    namedFields (es ++ fs) = namedFields es ++ namedFields fs :=
  List.map_append

theorem get?_namedFields (es : List (String × Value)) (name : String) :
    Fields.get? (namedFields es) name = es.lookup name := by
  induction es with
  | nil => rfl
  | cons e es ih =>
    have hcons : namedFields (e :: es) = (.str e.1, e.2) :: namedFields es := rfl
    rw [hcons, Fields.get?_cons, ih, List.lookup_cons]
    by_cases h : e.1 = name
    · simp [h]
    · rw [if_neg (by simpa using h), beq_false_of_ne (Ne.symm h)]

theorem keysDistinct_namedFields_iff {es : List (String × Value)} :
    (namedFields es).KeysDistinct ↔ (es.map Prod.fst).Nodup := by
  rw [Fields.KeysDistinct, namedFields, List.map_map, List.pairwise_map, List.Nodup,
    List.pairwise_map]
  refine List.Pairwise.iff fun e e' => ?_
  simp

theorem forall_mem_namedFields {P : Value → Prop} {es : List (String × Value)} :
    (∀ f ∈ namedFields es, P f.2) ↔ ∀ e ∈ es, P e.2 :=
  List.forall_mem_map

/-- Entries whose keys are all texts are entries under names. -/
theorem exists_namedFields {fs : Fields} (h : ∀ f ∈ fs, f.1.str?.isSome) :
    ∃ es, fs = namedFields es := by
  induction fs with
  | nil => exact ⟨[], rfl⟩
  | cons f fs ih =>
    obtain ⟨hf, hfs⟩ := List.forall_mem_cons.mp h
    obtain ⟨es, rfl⟩ := ih hfs
    obtain ⟨k, v⟩ := f
    cases k with
    | str s => exact ⟨(s, v) :: es, rfl⟩
    | _ => cases hf

/-- Entries under distinct names make up a well-formed mapping if they are well-formed. -/
theorem wellFormed_namedFields {es : List (String × Value)} (hnodup : (es.map Prod.fst).Nodup)
    (hwell : ∀ e ∈ es, e.2.WellFormed 0) : (Value.map (namedFields es)).WellFormed 0 :=
  wellFormed_map (keysDistinct_namedFields_iff.mpr hnodup) (forall_mem_namedFields.mpr hwell)

theorem fields?_namedFields {es : List (String × Value)} (hwell : ∀ e ∈ es, e.2.WellFormed 0) :
    (Value.map (namedFields es)).fields? = some (namedFields es) :=
  fields?_map (forall_mem_namedFields.mpr hwell)

/-- Of entries under names those are no fields that have none of the names of fields. -/
theorem checkUndeclared_namedFields {used : List String} {es : List (String × Value)}
    (hnamed : ∀ e ∈ es, Text.hasSurrogates e.1.toList = false) :
    checkUndeclared used (namedFields es) = .valid (es.filter (·.1 ∉ used)) := by
  induction es with
  | nil => rfl
  | cons e es ih =>
    obtain ⟨he, hes⟩ := List.forall_mem_cons.mp hnamed
    have hcons : namedFields (e :: es) = (.str e.1, e.2) :: namedFields es := rfl
    have hname : (Key.str e.1).toName = .valid e.1 := Key.toName_eq_valid.mpr ⟨rfl, he⟩
    rw [hcons, checkUndeclared, hname, ih hes]
    by_cases h : e.1 ∈ used <;> simp [h, Checked.map]

theorem checkEntries_namedFields (es : List (String × Value)) :
    checkEntries Checked.valid (namedFields es) = .valid es := by
  rw [checkEntries_eq_valid, namedFields, List.forall₂_map_left_iff, List.forall₂_same]
  exact fun e _ => ⟨rfl, rfl⟩

/-- A mapping of any values is read as it stands, when its names are distinct. -/
theorem toNamed_map {es : List (String × Value)} (hnodup : (es.map Prod.fst).Nodup)
    (hwell : ∀ e ∈ es, e.2.WellFormed 0) : (Value.map (namedFields es)).toNamed = .valid es := by
  simp only [Value.toNamed, Value.toMappingOf, fields?_namedFields hwell, checkEntries_namedFields,
    Checked.map, oncePerName_eq, putEach_eq_self hnodup]

theorem toListOf_list {read : Value → Checked α} {vs : List Value} {as : List α}
    (hwell : ∀ v ∈ vs, v.WellFormed 0) (h : List.Forall₂ (fun v a => read v = .valid a) vs as) :
    (Value.list vs).toListOf read = .valid as := by
  simp only [Value.toListOf, items?_list hwell]
  exact checkItems_eq_valid.mpr h

theorem wellFormed_of_mem_texts {ss : List String} : ∀ v ∈ ss.map Value.str, v.WellFormed 0 := by
  intro v hv
  obtain ⟨s, -, rfl⟩ := List.mem_map.mp hv
  trivial

/-- A list of texts is read as those texts. -/
theorem toListOf_texts (ss : List String) :
    (Value.list (ss.map .str)).toListOf Value.toText = .valid ss := by
  refine toListOf_list wellFormed_of_mem_texts ?_
  rw [List.forall₂_map_left_iff, List.forall₂_same]
  exact fun s _ => rfl

theorem nodup_oncePerName (es : List (String × α)) : ((oncePerName es).map Prod.fst).Nodup := by
  rw [oncePerName_eq, map_fst_putEach]
  exact nodup_eraseDups _

/-- A mapping of any values is read as one with distinct names and well-formed values. -/
theorem sound_of_toNamed {v : Value} (hv : v.WellFormed 0) {es : List (String × Value)}
    (h : v.toNamed = .valid es) : (es.map Prod.fst).Nodup ∧ ∀ e ∈ es, e.2.WellFormed 0 := by
  refine ⟨?_, fun e he => ?_⟩
  · obtain ⟨fs, entries, -, -, rfl⟩ := toMappingOf_eq_valid.mp h
    exact nodup_oncePerName entries
  · obtain ⟨fs, hfs, k, w, hmem, -, hw⟩ := mem_toMappingOf h he
    cases hw
    exact (hv.fields hfs).2 _ hmem

/-- A list of any values is read as a list of well-formed values. -/
theorem wellFormed_of_toListOf {v : Value} (hv : v.WellFormed 0) {ws : List Value}
    (h : v.toListOf .valid = .valid ws) : ∀ w ∈ ws, w.WellFormed 0 := by
  obtain ⟨vs, hvs, hread⟩ := forall₂_of_toListOf h
  intro w hw
  obtain ⟨u, hu, heq⟩ := Reference.exists_of_forall₂ hread.flip hw
  cases heq
  exact hv.items hvs _ hu

/-! ### Entries under some of the names -/

section

variable {β : Type} {g : String → Option β} {names : List String} {name : String}

/-- The entries for those of the names for which there is something. -/
def entriesFor (g : String → Option β) (names : List String) : List (String × β) :=
  names.filterMap fun name => (g name).map (name, ·)

theorem entriesFor_cons (g : String → Option β) (name : String) (names : List String) :
    entriesFor g (name :: names) = ((g name).map (name, ·)).toList ++ entriesFor g names := by
  rw [entriesFor, List.filterMap_cons]
  cases g name <;> rfl

theorem mem_entriesFor {e : String × β} :
    e ∈ entriesFor g names ↔ e.1 ∈ names ∧ g e.1 = some e.2 := by
  simp only [entriesFor, List.mem_filterMap, Option.map_eq_some_iff]
  constructor
  · rintro ⟨name, hname, b, hb, rfl⟩
    exact ⟨hname, hb⟩
  · rintro ⟨hname, hb⟩
    exact ⟨e.1, hname, e.2, hb, rfl⟩

theorem lookup_entriesFor (hname : name ∈ names) : (entriesFor g names).lookup name = g name := by
  induction names with
  | nil => cases hname
  | cons first names ih =>
    rw [entriesFor_cons, List.lookup_append]
    by_cases h : name = first
    · cases hg : g first with
      | none =>
        -- Nothing is found under a name that is given once more.
        rw [h, hg, Option.map_none, Option.toList_none, List.lookup_nil, Option.none_or,
          List.lookup_eq_none_iff]
        intro e he
        have hne : first ≠ e.1 := fun heq => by
          rw [heq, (mem_entriesFor.mp he).2] at hg
          cases hg
        simpa using hne
      | some b => simp [h, hg]
    · have hfirst : ((g first).map (first, ·)).toList.lookup name = none := by
        cases g first with
        | none => rfl
        | some b => rw [Option.map_some, Option.toList_some, List.lookup_cons, beq_false_of_ne h,
            List.lookup_nil]
      rw [hfirst, Option.none_or, ih ((List.mem_cons.mp hname).resolve_left h)]

theorem map_fst_entriesFor_sublist (g : String → Option β) (names : List String) :
    ((entriesFor g names).map Prod.fst).Sublist names := by
  induction names with
  | nil => exact List.nil_sublist _
  | cons name names ih =>
    rw [entriesFor_cons]
    cases g name with
    | none => exact ih.cons name
    | some b => exact ih.cons_cons name

end

/-! ### Values of outlines -/

namespace Outline

theorem plainEntries_eq (es : List (String × Outline)) :
    plainEntries es = namedFields (es.map fun e => (e.1, e.2.plain)) := by
  induction es with
  | nil => rfl
  | cons e es ih =>
    rw [plainEntries, ih]
    rfl

theorem plainItems_eq (os : List Outline) : plainItems os = os.map plain := by
  induction os with
  | nil => rfl
  | cons o os ih => rw [plainItems, ih, List.map_cons]

theorem lookup_field (name other : String) (f : α → Outline) (x : Option α) :
    (field name f x).lookup other = if other = name then x.map f else none := by
  cases x with
  | none => simp [field]
  | some a =>
    rw [field, List.lookup_cons, List.lookup_nil]
    by_cases h : other = name
    · simp [h]
    · rw [beq_false_of_ne h, if_neg h]

end Outline

/-! ### Names in a mapping -/

/-- A mapping whose names are all texts is read entry by entry. -/
theorem forall₂_of_toMappingOf {read : Value → Checked α} {w : Value} {fs : Fields}
    {es : List (String × α)} (hw : w.WellFormed 0) (hfs : w.fields? = some fs)
    (htexts : ∀ f ∈ fs, f.1.str?.isSome) (h : w.toMappingOf read = .valid es) :
    List.Forall₂ (fun f e => f.1 = .str e.1 ∧ read f.2 = .valid e.2) fs es := by
  obtain ⟨fs', entries, hfs', hentries, rfl⟩ := toMappingOf_eq_valid.mp h
  obtain rfl : fs = fs' := Option.some.inj (hfs.symm.trans hfs')
  obtain ⟨given, rfl⟩ := exists_namedFields htexts
  have hread : List.Forall₂ (fun f e => f.1 = .str e.1 ∧ read f.2 = .valid e.2)
      (namedFields given) entries := by
    have hentries := checkEntries_eq_valid.mp hentries
    rw [namedFields, List.forall₂_map_left_iff] at hentries ⊢
    exact hentries.imp fun e e' he => ⟨congrArg Key.str (Checked.valid.inj he.1), he.2⟩
  -- The names are distinct since the keys are, so that each is kept as it is.
  have hnames : given.map Prod.fst = entries.map Prod.fst := by
    rw [namedFields, List.forall₂_map_left_iff] at hread
    rw [← List.forall₂_eq_eq_eq, List.forall₂_map_left_iff, List.forall₂_map_right_iff]
    exact hread.imp fun e e' he => Key.str.inj he.1
  have hnodup : (entries.map Prod.fst).Nodup :=
    hnames ▸ keysDistinct_namedFields_iff.mp (hw.fields hfs).1
  rwa [oncePerName_eq, putEach_eq_self hnodup]

/-- What is found under a name among the values is read as what is found among the entries. -/
theorem rel_lookup_of_forall₂ {read : Value → Checked α} {fs : Fields}
    {es : List (String × α)}
    (h : List.Forall₂ (fun f e => f.1 = .str e.1 ∧ read f.2 = .valid e.2) fs es) (name : String) :
    Option.Rel (fun v a => read v = .valid a) (fs.get? name) (es.lookup name) := by
  induction h with
  | nil => exact .none
  | @cons f e fs es hfe _ ih =>
    obtain ⟨k, v⟩ := f
    obtain ⟨rfl, hvalue⟩ := hfe
    rw [Fields.get?_cons, List.lookup_cons]
    by_cases hname : e.1 = name
    · rw [if_pos (congrArg Key.str hname), ← hname, beq_self_eq_true]
      exact .some hvalue
    · rw [if_neg fun heq => hname (Key.str.inj heq), beq_false_of_ne (Ne.symm hname)]
      exact ih

theorem Fields.nameUsed_of_has {fs : Fields} {name : String} (h : fs.has name = true)
    (others : List String) : fs.nameUsed (name :: others) = some name := by
  obtain ⟨v, hv⟩ := Option.isSome_iff_exists.mp h
  simp only [Fields.nameUsed, Fields.lookup, hv, Option.map_some]

theorem Fields.mem_of_nameUsed {fs : Fields} {names : List String} {used : String}
    (h : fs.nameUsed names = some used) : used ∈ names := by
  induction names with
  | nil => cases h
  | cons name names ih =>
    rw [Fields.nameUsed, Fields.lookup] at h
    split at h
    · obtain rfl := Option.some.inj h
      exact List.mem_cons_self ..
    · exact List.mem_cons_of_mem _ (ih h)

/-- Of fields with one name each, those are used that are there. -/
theorem Fields.mem_filterMap_nameUsed {fs : Fields} {names : List String} {name : String} :
    name ∈ (names.map ([·])).filterMap fs.nameUsed ↔ name ∈ names ∧ fs.has name = true := by
  simp only [List.filterMap_map, List.mem_filterMap, Function.comp_apply]
  constructor
  · rintro ⟨other, hother, hused⟩
    obtain rfl := List.mem_singleton.mp (Fields.mem_of_nameUsed hused)
    refine ⟨hother, ?_⟩
    rw [Fields.nameUsed, Fields.lookup] at hused
    rw [Fields.has]
    split at hused
    · next hget => rw [hget, Option.isSome_some]
    · cases hused
  · rintro ⟨hname, hhas⟩
    exact ⟨name, hname, Fields.nameUsed_of_has hhas []⟩

theorem Fields.has_of_mem {fs : Fields} {name : String} {v : Value} (h : (Key.str name, v) ∈ fs) :
    fs.has name = true := by
  rw [Fields.has]
  induction fs with
  | nil => cases h
  | cons f fs ih =>
    rw [Fields.get?_cons]
    split_ifs with hf
    · rfl
    · exact ih ((List.mem_cons.mp h).resolve_left fun heq => hf (by rw [← heq]))

namespace Description

open Outline (plainEntries_eq plainItems_eq)

/-! ### Further entries -/

/-- The further entries that have a value. -/
def givenExtras (extras : Extras) : Extras :=
  extras.filter fun e => !e.2.isNull

/-- Further entries have distinct names without surrogates, none of which is one of those declared,
and well-formed values. -/
structure SoundExtras (declared : List String) (extras : Extras) : Prop where
  nodup : (extras.map Prod.fst).Nodup
  apart : ∀ e ∈ extras, e.1 ∉ declared
  named : ∀ e ∈ extras, Text.hasSurrogates e.1.toList = false
  wellFormed : ∀ e ∈ extras, e.2.WellFormed 0

/-- The entries that are no fields are sound, where each of the names declared is used if it is
there. -/
theorem soundExtras_of_undeclared {fs : Fields} {names : List (List String)} {extras : Extras}
    {declared : List String} (hkeys : fs.KeysDistinct) (hwell : ∀ f ∈ fs, f.2.WellFormed 0)
    (h : fs.undeclared names = .valid extras)
    (hused : ∀ name ∈ declared, fs.has name = true → name ∈ names.filterMap fs.nameUsed) :
    SoundExtras declared extras := by
  -- As the further entries are read, there are names as keys only.
  have hnames := (exists_undeclared_iff names).mp ⟨extras, h⟩
  obtain ⟨es, rfl⟩ := exists_namedFields fun f hf => (hnames f hf).isSome_str?
  have hnamed : ∀ e ∈ es, Text.hasSurrogates e.1.toList = false := fun e he => by
    obtain ⟨s, hs, hlegible⟩ := hnames _ (List.mem_map_of_mem he)
    rwa [Key.str.inj hs]
  rw [Fields.undeclared, checkUndeclared_namedFields hnamed] at h
  obtain rfl := Checked.valid.inj h
  have hnodup : (es.map Prod.fst).Nodup := keysDistinct_namedFields_iff.mp hkeys
  refine ⟨hnodup.sublist (List.filter_sublist.map _), fun e he hdeclared => ?_,
    fun e he => hnamed e (List.mem_of_mem_filter he), fun e he => ?_⟩
  · obtain ⟨hmem, hnot⟩ := List.mem_filter.mp he
    have hentry : (Key.str e.1, e.2) ∈ namedFields es := List.mem_map_of_mem hmem
    exact of_decide_eq_true hnot (hused _ hdeclared (Fields.has_of_mem hentry))
  · exact forall_mem_namedFields.mp hwell e (List.mem_of_mem_filter he)

/-- The same, where each field has one name. -/
theorem soundExtras_of_undeclared_map {fs : Fields} {names : List String} {extras : Extras}
    {declared : List String} (hkeys : fs.KeysDistinct) (hwell : ∀ f ∈ fs, f.2.WellFormed 0)
    (h : fs.undeclared (names.map ([·])) = .valid extras)
    (hnames : ∀ name ∈ declared, fs.has name = true → name ∈ names) :
    SoundExtras declared extras :=
  soundExtras_of_undeclared hkeys hwell h fun name hname hhas =>
    Fields.mem_filterMap_nameUsed.mpr ⟨hnames name hname hhas, hhas⟩

theorem SoundExtras.given {declared : List String} {extras : Extras}
    (h : SoundExtras declared extras) : SoundExtras declared (givenExtras extras) where
  nodup := h.nodup.sublist (List.filter_sublist.map _)
  apart e he := h.apart e (List.mem_of_mem_filter he)
  named e he := h.named e (List.mem_of_mem_filter he)
  wellFormed e he := h.wellFormed e (List.mem_of_mem_filter he)

/-! ### Models laid out -/

/-- The entries that a model is laid out as: its fields, and the further entries with a value. -/
def laidOut (fields : List (String × Outline)) (extras : Extras) : List (String × Value) :=
  fields.map (fun e => (e.1, e.2.plain)) ++ givenExtras extras

theorem plain_model (name : String) (fields : List (String × Outline)) (extras : Extras) :
    (Outline.model name fields extras).plain = .map (namedFields (laidOut fields extras)) := by
  rw [Outline.plain, plainEntries_eq, laidOut, namedFields_append]
  rfl

theorem lookup_map_snd {β γ : Type} (f : β → γ) (es : List (String × β)) (name : String) :
    (es.map fun e => (e.1, f e.2)).lookup name = (es.lookup name).map f := by
  induction es with
  | nil => rfl
  | cons e es ih =>
    rw [List.map_cons, List.lookup_cons, List.lookup_cons, ih]
    cases name == e.1 <;> rfl

section

variable {declared : List String} {fields : List (String × Outline)} {extras : Extras}

/-- What is declared is found among the fields. -/
theorem get?_laidOut (hextras : SoundExtras declared extras) {name : String}
    (hname : name ∈ declared) :
    Fields.get? (namedFields (laidOut fields extras)) name
      = (fields.lookup name).map Outline.plain := by
  have hnone : (givenExtras extras).lookup name = none :=
    List.lookup_eq_none_iff.mpr fun e he => by
      simpa using fun heq : name = e.1 => hextras.given.apart e he (heq ▸ hname)
  rw [get?_namedFields, laidOut, List.lookup_append, hnone, Option.or_none, lookup_map_snd]

/-- A model is laid out as well-formed entries with distinct names, if its fields are such. -/
theorem sound_laidOut (hextras : SoundExtras declared extras)
    (hnodup : (fields.map Prod.fst).Nodup) (hdeclared : ∀ e ∈ fields, e.1 ∈ declared)
    (hwell : ∀ e ∈ fields, e.2.plain.WellFormed 0) :
    ((laidOut fields extras).map Prod.fst).Nodup ∧
      ∀ e ∈ laidOut fields extras, e.2.WellFormed 0 := by
  refine ⟨?_, fun e he => ?_⟩
  · rw [laidOut, List.map_append, List.map_map]
    refine List.nodup_append.mpr ⟨hnodup, hextras.given.nodup, ?_⟩
    rintro name hname other hother rfl
    obtain ⟨e, he, rfl⟩ := List.mem_map.mp hname
    obtain ⟨x, hx, heq⟩ := List.mem_map.mp hother
    exact hextras.given.apart x hx (heq ▸ hdeclared e he)
  · rcases List.mem_append.mp he with he | he
    · obtain ⟨f, hf, rfl⟩ := List.mem_map.mp he
      exact hwell f hf
    · exact hextras.given.wellFormed e he

/-- The further entries of what is laid out are those with a value. -/
theorem undeclared_laidOut {names : List (List String)} (hsound : SoundExtras declared extras)
    (hnamed : ∀ e ∈ fields, Text.hasSurrogates e.1.toList = false)
    (hfields : ∀ e ∈ fields,
      e.1 ∈ names.filterMap (Fields.nameUsed (namedFields (laidOut fields extras))))
    (hextras : ∀ e ∈ givenExtras extras,
      e.1 ∉ names.filterMap (Fields.nameUsed (namedFields (laidOut fields extras)))) :
    Fields.undeclared (namedFields (laidOut fields extras)) names
      = .valid (givenExtras extras) := by
  have hall : ∀ e ∈ laidOut fields extras, Text.hasSurrogates e.1.toList = false :=
    List.forall_mem_append.mpr ⟨List.forall_mem_map.mpr hnamed, hsound.given.named⟩
  rw [Fields.undeclared, checkUndeclared_namedFields hall]
  generalize names.filterMap (Fields.nameUsed (namedFields (laidOut fields extras))) = used
    at hfields hextras ⊢
  have hnone : (fields.map fun e => (e.1, e.2.plain)).filter (·.1 ∉ used) = [] := by
    refine List.filter_eq_nil_iff.mpr fun e he => ?_
    obtain ⟨f, hf, rfl⟩ := List.mem_map.mp he
    simpa using hfields f hf
  have hall : (givenExtras extras).filter (·.1 ∉ used) = givenExtras extras :=
    List.filter_eq_self.mpr fun e he => by simpa using hextras e he
  rw [laidOut, List.filter_append, hnone, hall, List.nil_append]

end

/-! ### Keywords laid out -/

/-- The outline of what a keyword holds. -/
def KeywordValue.outline : KeywordValue → Outline
  | .text s => .text s
  | .type t => t.outline
  | .choices vs => .value (.list vs)
  | .truth b => .truth b
  | .names ss => .texts ss
  | .additionalProperties a => a.outline
  | .node n => n.outline
  | .properties ps => mappingOutline Node.outline ps
  | .nodes ns => listOutline Node.outline ns

/-- The fields of a schema: those of the keywords that it has. -/
def keywordOutlines (n : Node) : List (String × Outline) :=
  entriesFor (fun name => (n.keyword? name).map KeywordValue.outline) keywordNames

theorem namedOutlines_eq (ns : List (String × Node)) :
    namedOutlines ns = ns.map fun p => (p.1, p.2.outline) := by
  induction ns with
  | nil => rfl
  | cons p ns ih =>
    rw [namedOutlines, ih]
    rfl

theorem nodeOutlines_eq (ns : List Node) : nodeOutlines ns = ns.map Node.outline := by
  induction ns with
  | nil => rfl
  | cons n ns ih => rw [nodeOutlines, ih, List.map_cons]

/-- **A schema is laid out keyword by keyword.** -/
theorem outline_schema (k : Keywords) (items : Option Node)
    (properties : Option (List (String × Node))) (allOf oneOf anyOf : Option (List Node))
    (extras : Extras) :
    (Node.schema k items properties allOf oneOf anyOf extras).outline =
      .model "Schema" (keywordOutlines (.schema k items properties allOf oneOf anyOf extras))
        extras := by
  have hfield {β : Type} (name : String) (f : β → KeywordValue) (x : Option β) :
      (((x.map f).map KeywordValue.outline).map (name, ·)).toList
        = Outline.field name (fun b => (f b).outline) x := by
    cases x <;> rfl
  -- The parts that hold further nodes are laid out by recursion, one form each.
  have hitems : itemsOutline items
      = Outline.field "items" (fun n => (KeywordValue.node n).outline) items := by
    cases items <;> rfl
  have hproperties : propertiesOutline properties
      = Outline.field "properties" (fun ps => (KeywordValue.properties ps).outline) properties := by
    cases properties with
    | none => rfl
    | some ps => rw [propertiesOutline, namedOutlines_eq]; rfl
  have hmembers (name : String) (ns : Option (List Node)) : membersOutline name ns
      = Outline.field name (fun ns => (KeywordValue.nodes ns).outline) ns := by
    cases ns with
    | none => rfl
    | some ns => rw [membersOutline, nodeOutlines_eq]; rfl
  rw [Node.outline, hitems, hproperties, hmembers, hmembers, hmembers, keywordOutlines,
    keywordNames]
  simp only [entriesFor_cons, Node.keyword?, hfield, List.append_assoc]
  simp only [KeywordValue.outline, entriesFor, List.filterMap_nil, List.append_nil]

end Description

end ServerActions
