import ServerActions.Proofs.Description.Parts
import ServerActions.Proofs.Reference.Depth
import ServerActions.Proofs.Reference.Pointer
import ServerActions.Proofs.Reference.Transparency

/-!
# Schemas given in place

The schemas of a description are read twice: with the description, and again where a pointer leads
to one of them.  The way to a schema is spelled by the names and places under which it is given,
while the parts of the description are found by lower-case methods, and by status codes that are
texts.  Where the names tell the parts apart, both ways meet: the pointer to a schema leads to what
the schema was read from.  It is read there as the same node.  Only among the components a schema is
read with one level more, and that level is missing at the end of the pointer.

## Main definitions

* `Conventional` — the names in a description tell its parts apart.
* `Inline` — a schema of a description, the way to it and the depth at which it is read.

## Main results

* `Inline.place` — a schema is read from where the way to it leads.
* `schema_inline` — **the pointer to a schema leads to that schema**, without the last level of a
  component that goes as deep as can be.
-/

namespace ServerActions.Reference

open Description (Document Node PathItem Operation Parameter MediaType RequestBody Response
  OrReference Contents pathEntries pathFields isPathKey methodOf? orReference contentOf responsesOf
  maxDepth)

/-! ### Names that tell the parts apart -/

/-- The entries of the operations of all paths. -/
def operationEntries (root : Fields) : List Fields :=
  (pathEntries root).flatMap fun p => Fields.inner (p.2.filter fun f => (methodOf? f.1).isSome)

/-- The entries of the parameters of all paths and operations. -/
def parameterEntries (root : Fields) : List Fields :=
  ((pathEntries root).map Prod.snd ++ operationEntries root).flatMap fun fs =>
    (((fs.get? "parameters").bind Value.listItems?).getD []).filterMap Value.fields?

/-- The entries of the bodies and the responses of all operations. -/
def bodyEntries (root : Fields) : List Fields :=
  (operationEntries root).flatMap fun fs =>
    fs.under "requestBody" :: Fields.inner (fs.under "responses")

/-- The entries of the media types of all bodies and responses. -/
def mediaEntries (root : Fields) : List Fields :=
  (bodyEntries root).flatMap fun fs => Fields.inner (fs.under "content")

/-- Whether a key can be a status code: a text, or a natural number. -/
def isStatusKey : Key → Bool
  | .str _ => true
  | .int n => 0 ≤ n
  | _ => false

/-- The names in a description tell its parts apart: they are texts, or numbers for status codes;
no path has a method twice, and no operation a status code; schemas are given under their own
name. -/
structure Conventional (root : Fields) : Prop where
  components : ∀ f ∈ schemaEntries root, f.1.str?.isSome
  methods : ∀ p ∈ pathEntries root, (p.2.filterMap fun f => methodOf? f.1).Nodup
  statuses : ∀ fs ∈ operationEntries root, ∀ f ∈ fs.under "responses", isStatusKey f.1
  distinct : ∀ fs ∈ operationEntries root, ((fs.under "responses").map (·.1.shown)).Nodup
  media : ∀ fs ∈ bodyEntries root, ∀ f ∈ fs.under "content", f.1.str?.isSome
  schemas : ∀ fs ∈ parameterEntries root ++ mediaEntries root,
    fs.has "schema_" = true → fs.has "schema" = true

/-- A key under which a path has the operation with a method. -/
def Spells (root : Fields) (path key method : String) : Prop :=
  ∃ entries, (path, entries) ∈ pathEntries root ∧ entries.has key = true ∧
    methodOf? (.str key) = some method

/-- A schema that is given in place, with the way to it and the depth at which it is read. -/
inductive Inline (doc : Document) : List Segment → ℕ → Node → Prop
  | component {name : String} {n : Node} (hn : Component doc name n) :
      Inline doc [.name "components", .name "schemas", .name name] 0 n
  | pathParameter {path : String} {item : PathItem} {ps : List (OrReference Parameter)} {i : ℕ}
      {p : Parameter} {n : Node} (hitem : (path, item) ∈ doc.contents.paths)
      (hps : item.parameters = some ps) (hp : ps[i]? = some (.object p)) (hn : p.schema = some n) :
      Inline doc [.name "paths", .name path, .name "parameters", .number i, .name "schema"] 1 n
  | parameter {path key method : String} {o : Operation} {ps : List (OrReference Parameter)} {i : ℕ}
      {p : Parameter} {n : Node} (ho : doc.Declares path method o)
      (hkey : Spells doc.raw path key method) (hps : o.parameters = some ps)
      (hp : ps[i]? = some (.object p)) (hn : p.schema = some n) :
      Inline doc [.name "paths", .name path, .name key, .name "parameters", .number i,
        .name "schema"] 1 n
  | requestBody {path key method media : String} {o : Operation} {b : RequestBody} {t : MediaType}
      {n : Node} (ho : doc.Declares path method o) (hkey : Spells doc.raw path key method)
      (hb : o.requestBody = some (.object b)) (ht : (media, t) ∈ b.content)
      (hn : t.schema = some n) :
      Inline doc [.name "paths", .name path, .name key, .name "requestBody", .name "content",
        .name media, .name "schema"] 1 n
  | response {path key method status media : String} {o : Operation} {r : Response}
      {content : List (String × MediaType)} {t : MediaType} {n : Node}
      (ho : doc.Declares path method o) (hkey : Spells doc.raw path key method)
      (hr : (status, .object r) ∈ o.responses) (hcontent : r.content = some content)
      (ht : (media, t) ∈ content) (hn : t.schema = some n) :
      Inline doc [.name "paths", .name path, .name key, .name "responses", .name status,
        .name "content", .name media, .name "schema"] 1 n

/-! ### Following the way -/

/-- Segments lead from the root of a description to a mapping with some entries. -/
def LeadsTo (root : Fields) (ss : List Segment) (fs : Fields) : Prop :=
  ∃ v, LeadsIn (.map root) ss v ∧ v.fields? = some fs ∧ v.WellFormed 0

section

variable {root fs inner : Fields} {ss : List Segment} {v w : Value}

theorem LeadsTo.keysDistinct (h : LeadsTo root ss fs) : fs.KeysDistinct := by
  obtain ⟨v, -, hfs, hv⟩ := h
  exact (hv.fields hfs).1

theorem LeadsTo.wellFormed (h : LeadsTo root ss fs) {f : Key × Value} (hf : f ∈ fs) :
    f.2.WellFormed 0 := by
  obtain ⟨v, -, hfs, hv⟩ := h
  exact (hv.fields hfs).2 f hf

/-- No segments lead to what is read from a value. -/
theorem leadsTo_nil (hv : v.WellFormed 0) (hfs : v.fields? = some root) :
    LeadsTo root [] root := by
  obtain ⟨hkeys, hroot⟩ := hv.fields hfs
  exact ⟨.map root, .nil _, fields?_map hroot, wellFormed_map hkeys hroot⟩

/-- A name leads on to what is under it. -/
theorem LeadsTo.get? (h : LeadsTo root ss fs) {name : String} (hv : fs.get? name = some v) :
    LeadsIn (.map root) (ss ++ [.name name]) v := by
  obtain ⟨u, hu, hfs, -⟩ := h
  exact hu.append (.cons (.name hfs hv) (.nil v))

/-- A name leads on to the mapping under it. -/
theorem LeadsTo.under (h : LeadsTo root ss fs) {name : String} (hv : fs.get? name = some v)
    (hinner : v.fields? = some inner) : LeadsTo root (ss ++ [.name name]) inner :=
  ⟨v, h.get? hv, hinner, h.wellFormed (Fields.mem_of_get? hv)⟩

/-- A name and a place lead on to the mapping there in the list under the name. -/
theorem LeadsTo.item (h : LeadsTo root ss fs) {name : String} (hv : fs.get? name = some v)
    {vs : List Value} (hvs : v.listItems? = some vs) {i : ℕ} (hw : vs[i]? = some w)
    (hinner : w.fields? = some inner) :
    LeadsTo root (ss ++ [.name name, .number i]) inner := by
  have hwell := h.wellFormed (Fields.mem_of_get? hv)
  obtain ⟨u, hu, hfs, -⟩ := h
  refine ⟨w, hu.append (.cons (.name hfs hv) (.cons (.item hvs hw) (.nil w))), hinner, ?_⟩
  refine hwell.items ?_ w (List.mem_of_getElem? hw)
  cases v with
  | list items => exact hvs
  | _ => cases hvs

/-- A number leads on to the mapping under it, where no name is spelled the same. -/
theorem LeadsTo.entry (h : LeadsTo root ss fs) {n : ℕ} (hmem : (Key.int n, v) ∈ fs)
    (hname : fs.get? (toString n) = none) (hinner : v.fields? = some inner) :
    LeadsTo root (ss ++ [.number n]) inner := by
  have hself : (Key.int n).same (.int n) = true := by simp [Key.same, Key.toInt?]
  have hfound : fs.find? (.int n) = some v := Fields.find?_of_mem h.keysDistinct hmem hself
  have hwell := h.wellFormed hmem
  obtain ⟨u, hu, hfs, -⟩ := h
  exact ⟨v, hu.append (.cons (.entry hfs hname hfound) (.nil v)), hinner, hwell⟩

/-- A name under which there is an entry leads on to the mapping there. -/
theorem LeadsTo.named (h : LeadsTo root ss fs) {name : String} (hmem : (Key.str name, v) ∈ fs)
    (hinner : v.fields? = some inner) : LeadsTo root (ss ++ [.name name]) inner :=
  h.under (Fields.get?_of_mem h.keysDistinct hmem) hinner

end

/-! ### From the description to its operations -/

section

variable {doc : Document} (hroot : LeadsTo doc.raw [] doc.raw)

include hroot

/-- The entries of a path are where its name leads. -/
theorem leadsTo_path {path : String} {entries : Fields} {v : Value}
    (hmem : (Key.str path, v) ∈ doc.raw.under "paths") (hv : v.fields? = some entries) :
    LeadsTo doc.raw [.name "paths", .name path] entries := by
  obtain ⟨paths, hpaths, hfs⟩ := Fields.get?_of_mem_under hmem
  exact (hroot.under hpaths hfs).named hmem hv

/-- A path has the same entries wherever it is found. -/
theorem pathEntries_unique {path : String} {entries others : Fields}
    (h : (path, entries) ∈ pathEntries doc.raw) (h' : (path, others) ∈ pathEntries doc.raw) :
    entries = others := by
  obtain ⟨v, hv, -, rfl⟩ := Description.mem_pathEntries.mp h
  obtain ⟨w, hw, -, rfl⟩ := Description.mem_pathEntries.mp h'
  obtain ⟨paths, hpaths, hfs⟩ := Fields.get?_of_mem_under hv
  have hkeys := (hroot.under hpaths hfs).keysDistinct
  have heq := (Fields.get?_of_mem hkeys hv).symm.trans (Fields.get?_of_mem hkeys hw)
  rw [Option.some.inj heq]

variable (hcontents : Contents.model.ofFields doc.raw = .valid doc.contents)

include hcontents

/-- A path is read from where its name leads. -/
theorem path_place {path : String} {item : PathItem} (hitem : (path, item) ∈ doc.contents.paths) :
    ∃ entries, (path, entries) ∈ pathEntries doc.raw ∧
      LeadsTo doc.raw [.name "paths", .name path] entries ∧
      PathItem.model.ofFields entries = .valid item := by
  obtain ⟨k, v, hmem, hk, hread⟩ :=
    mem_checkEntries (Description.pathFields_of_valid hcontents) hitem
  obtain ⟨hmem, hslash⟩ := List.mem_filter.mp hmem
  obtain ⟨entries, hentries, hmodel⟩ := Model.read_eq_valid.mp hread
  cases k with
  | str s =>
    obtain rfl : s = path := Checked.valid.inj hk
    have hpath : (s, entries) ∈ pathEntries doc.raw := by
      refine Description.mem_pathEntries.mpr ⟨v, hmem, hslash, ?_⟩
      rw [hentries, Option.getD_some]
    exact ⟨entries, hpath, leadsTo_path hroot hmem hentries, hmodel⟩
  | _ => cases hslash

/-- An operation is read from where the key that spells its method leads. -/
theorem operation_place (hconv : Conventional doc.raw) {path key method : String} {o : Operation}
    (ho : doc.Declares path method o) (hkey : Spells doc.raw path key method) :
    ∃ fs, fs ∈ operationEntries doc.raw ∧
      LeadsTo doc.raw [.name "paths", .name path, .name key] fs ∧
      Operation.model.ofFields fs = .valid o := by
  obtain ⟨item, hitem, ho⟩ := ho
  obtain ⟨entries, hentries, hplace, hmodel⟩ := path_place hroot hcontents hitem
  obtain ⟨others, hothers, hhas, hmethod⟩ := hkey
  obtain rfl := pathEntries_unique hroot hentries hothers
  -- No other entry of the path names the method, so the operation was read from this one.
  obtain ⟨v, hv⟩ := Option.isSome_iff_exists.mp hhas
  have hgiven := Description.givenFor?_of_get? (hconv.methods _ hentries) hv hmethod
  obtain ⟨_, -, hname, w, hw, hread⟩ :=
    exists_of_forall₂ (Description.read_operations hmodel).flip ho
  subst hname
  rw [hgiven] at hw
  cases hw
  obtain ⟨fs, hfs, hoperation⟩ := Model.read_eq_valid.mp hread
  have hmem : (Key.str key, v) ∈ entries.filter fun f => (methodOf? f.1).isSome :=
    List.mem_filter.mpr ⟨Fields.mem_of_get? hv, by rw [hmethod]; rfl⟩
  refine ⟨fs, ?_, hplace.under hv hfs, hoperation⟩
  exact List.mem_flatMap.mpr ⟨(path, entries), hentries, Fields.mem_inner hmem hfs⟩

end

/-! ### From an operation to its schemas -/

/-- A schema is read at a depth from where segments lead. -/
def ReadFrom (root : Fields) (ss : List Segment) (depth : ℕ) (n : Node) : Prop :=
  ∃ v, LeadsIn (.map root) ss v ∧ Node.readAt depth v = .valid n

section

variable {root fs : Fields} {ss : List Segment} {v : Value} {n : Node}

/-- The schema of a parameter is read from its place in the list of parameters. -/
theorem LeadsTo.parameter (hconv : Conventional root) (h : LeadsTo root ss fs)
    (hfs : fs ∈ (pathEntries root).map Prod.snd ++ operationEntries root)
    (hv : fs.get? "parameters" = some v) {ps : List (OrReference Parameter)}
    (hread : v.toListOf (orReference Parameter.innerModel) = .valid ps) {i : ℕ} {p : Parameter}
    (hp : ps[i]? = some (.object p)) (hn : p.schema = some n) :
    ReadFrom root (ss ++ [.name "parameters", .number i, .name "schema"]) 1 n := by
  obtain ⟨vs, w, inner, hvs, hw, hinner, hparameter⟩ := Description.item_of_toListOf hread hp
  have hmem : inner ∈ parameterEntries root := by
    refine List.mem_flatMap.mpr ⟨fs, hfs, List.mem_filterMap.mpr ⟨w, ?_, hinner⟩⟩
    rw [hv, Option.bind_some, hvs, Option.getD_some]
    exact List.mem_of_getElem? hw
  have hschema := Parameter.schema_of_valid hparameter
  rw [hn] at hschema
  obtain ⟨u, hu, hnode⟩ := Fields.optional_eq_some_of_has hschema
    (hconv.schemas inner (List.mem_append_left _ hmem))
  have hplace := (h.item hv hvs hw hinner).get? hu
  rw [List.append_assoc] at hplace
  exact ⟨u, hplace, hnode⟩

/-- The schema of a media type is read from its entry. -/
theorem LeadsTo.media (hconv : Conventional root) (h : LeadsTo root ss fs)
    (hfs : fs ∈ bodyEntries root) (hv : fs.get? "content" = some v)
    {content : List (String × MediaType)} (hread : contentOf 1 v = .valid content) {media : String}
    {t : MediaType} (ht : (media, t) ∈ content) (hn : t.schema = some n) :
    ReadFrom root (ss ++ [.name "content", .name media, .name "schema"]) 1 n := by
  obtain ⟨types, k, w, htypes, hw, hk, inner, hinner, hmedia⟩ := Description.mem_contentOf hread ht
  have hunder := Fields.under_of_get? hv htypes
  have hmem : inner ∈ mediaEntries root :=
    List.mem_flatMap.mpr ⟨fs, hfs, hunder ▸ Fields.mem_inner hw hinner⟩
  -- Only a name that is a text is found by the pointer as it was read.
  have hkey := hconv.media fs hfs (k, w) (hunder ▸ hw)
  cases k with
  | str s =>
    obtain rfl : s = media := Checked.valid.inj hk
    have hschema := MediaType.schema_of_valid hmedia
    rw [hn] at hschema
    obtain ⟨u, hu, hnode⟩ := Fields.optional_eq_some_of_has hschema
      (hconv.schemas inner (List.mem_append_right _ hmem))
    have hplace := ((h.under hv htypes).named hw hinner).get? hu
    rw [List.append_assoc, List.append_assoc] at hplace
    exact ⟨u, hplace, hnode⟩
  | _ => cases hkey

/-- A response is read from its entry, which is under its status code as a text or as a number. -/
theorem LeadsTo.status (hconv : Conventional root) (h : LeadsTo root ss fs)
    (hfs : fs ∈ operationEntries root) (hv : fs.get? "responses" = some v)
    {rs : List (String × OrReference Response)} (hread : responsesOf v = .valid rs)
    {status : String} {r : Response} (hr : (status, .object r) ∈ rs) :
    ∃ s inner, s.text = status ∧ s.IsShort ∧ inner ∈ bodyEntries root ∧
      LeadsTo root (ss ++ [.name "responses", s]) inner ∧
      Response.innerModel.ofFields inner = .valid r := by
  obtain ⟨codes, k, w, hcodes, hw, hshown, hlong, inner, hinner, hresponse⟩ :=
    Description.mem_responsesOf hread hr
  have hunder := Fields.under_of_get? hv hcodes
  have hmem : inner ∈ bodyEntries root :=
    List.mem_flatMap.mpr ⟨fs, hfs, List.mem_cons_of_mem _ (hunder ▸ Fields.mem_inner hw hinner)⟩
  have hkey := hconv.statuses fs hfs (k, w) (hunder ▸ hw)
  have hplace := h.under hv hcodes
  cases k with
  | str s =>
    refine ⟨.name s, inner, hshown, trivial, hmem, ?_, hresponse⟩
    have hnext := hplace.named hw hinner
    rwa [List.append_assoc] at hnext
  | int z =>
    obtain ⟨n, rfl⟩ := Int.eq_ofNat_of_zero_le (of_decide_eq_true hkey)
    refine ⟨.number n, inner, hshown, ?_, hmem, ?_, hresponse⟩
    · exact Nat.le_of_not_lt (of_decide_eq_false hlong)
    · -- No other status code is spelled so.
      have hname : codes.get? (toString n) = none := by
        rw [← Option.not_isSome_iff_eq_none]
        intro hsome
        obtain ⟨x, hx⟩ := Option.isSome_iff_exists.mp hsome
        have hdistinct := hunder ▸ hconv.distinct fs hfs
        have heq := List.inj_on_of_nodup_map hdistinct (Fields.mem_of_get? hx) hw rfl
        cases heq
      have hnext := hplace.entry hw hname hinner
      rwa [List.append_assoc] at hnext
  | _ => cases hkey

end

/-! ### Every schema is where the way to it leads -/

section

variable {doc : Document} (hroot : LeadsTo doc.raw [] doc.raw)
  (hcontents : Contents.model.ofFields doc.raw = .valid doc.contents)
  (hconv : Conventional doc.raw) {path key method media : String} {o : Operation} {n : Node}

include hroot hcontents hconv

/-- A schema of the components is read from its entry. -/
theorem component_place {name : String} (hn : Component doc name n) :
    ReadFrom doc.raw [.name "components", .name "schemas", .name name] 0 n := by
  obtain ⟨_, _, _, k, v, hcomponents, hentries, hschemas, hfs, hmem, hk, hv⟩ := hn.given hcontents
  have hplace := (hroot.under hcomponents hentries).under hschemas hfs
  have hkey := hconv.components _ hmem
  cases k with
  | str s =>
    obtain rfl := Checked.valid.inj hk
    exact ⟨v, hplace.get? (Fields.get?_of_mem hplace.keysDistinct hmem), hv⟩
  | _ => cases hkey

/-- A schema of a body is read from the body's content. -/
theorem requestBody_place {b : RequestBody} {t : MediaType} (ho : doc.Declares path method o)
    (hkey : Spells doc.raw path key method) (hb : o.requestBody = some (.object b))
    (ht : (media, t) ∈ b.content) (hn : t.schema = some n) :
    ReadFrom doc.raw [.name "paths", .name path, .name key, .name "requestBody", .name "content",
      .name media, .name "schema"] 1 n := by
  obtain ⟨fs, hfs, hplace, hmodel⟩ := operation_place hroot hcontents hconv ho hkey
  have hfield := (Operation.fields_of_valid hmodel).2.1
  rw [hb] at hfield
  obtain ⟨v, hv, hread⟩ := Fields.optional_eq_some hfield
  obtain ⟨inner, hinner, hbody⟩ := Description.fields_of_orReference hread
  obtain ⟨w, hw, hcontent⟩ := Fields.mem_of_withDefault (RequestBody.content_of_valid hbody) ht
  have hmem : inner ∈ bodyEntries doc.raw := by
    refine List.mem_flatMap.mpr ⟨fs, hfs, ?_⟩
    rw [Fields.under_of_get? hv hinner]
    exact List.mem_cons_self ..
  exact (hplace.under hv hinner).media hconv hmem hw hcontent ht hn

/-- A schema of a response is read from the response's content.  The status code may be a number
where the way has its digits as a name. -/
theorem response_place {status : String} {r : Response} {content : List (String × MediaType)}
    {t : MediaType} (ho : doc.Declares path method o) (hkey : Spells doc.raw path key method)
    (hr : (status, .object r) ∈ o.responses) (hcontent : r.content = some content)
    (ht : (media, t) ∈ content) (hn : t.schema = some n) :
    ∃ s : Segment, s.text = status ∧ s.IsShort ∧
      ReadFrom doc.raw [.name "paths", .name path, .name key, .name "responses", s,
        .name "content", .name media, .name "schema"] 1 n := by
  obtain ⟨fs, hfs, hplace, hmodel⟩ := operation_place hroot hcontents hconv ho hkey
  obtain ⟨v, hv, hread⟩ := Fields.mem_of_withDefault (Operation.fields_of_valid hmodel).2.2 hr
  obtain ⟨s, inner, hs, hshort, hmem, hnext, hresponse⟩ := hplace.status hconv hfs hv hread hr
  have hfield := Response.content_of_valid hresponse
  rw [hcontent] at hfield
  obtain ⟨w, hw, hcontent⟩ := Fields.optional_eq_some hfield
  exact ⟨s, hs, hshort, hnext.media hconv hmem hw hcontent ht hn⟩

/-- **A schema is read from where the way to it leads**, or a way that is spelled the same. -/
theorem Inline.place {ss : List Segment} {depth : ℕ} (h : Inline doc ss depth n) :
    ∃ ts, ts.map Segment.text = ss.map Segment.text ∧ (∀ t ∈ ts, t ∈ ss ∨ t.IsShort) ∧
      ReadFrom doc.raw ts depth n := by
  -- All but the responses are where the way leads as it is spelled.
  have hsame (hss : ReadFrom doc.raw ss depth n) :
      ∃ us, us.map Segment.text = ss.map Segment.text ∧ (∀ u ∈ us, u ∈ ss ∨ u.IsShort) ∧
        ReadFrom doc.raw us depth n :=
    ⟨ss, rfl, fun _ hu => Or.inl hu, hss⟩
  cases h with
  | component hn => exact hsame (component_place hroot hcontents hconv hn)
  | pathParameter hitem hps hp hn =>
    obtain ⟨entries, hentries, hplace, hmodel⟩ := path_place hroot hcontents hitem
    obtain ⟨v, hv, hread⟩ :=
      PathItem.parameters_of_valid hmodel hplace.keysDistinct hps
    have hfs : entries ∈ (pathEntries doc.raw).map Prod.snd := List.mem_map.mpr ⟨_, hentries, rfl⟩
    exact hsame (hplace.parameter hconv (List.mem_append_left _ hfs) hv hread hp hn)
  | parameter ho hkey hps hp hn =>
    obtain ⟨fs, hfs, hplace, hmodel⟩ := operation_place hroot hcontents hconv ho hkey
    have hfield := (Operation.fields_of_valid hmodel).1
    rw [hps] at hfield
    obtain ⟨v, hv, hread⟩ := Fields.optional_eq_some hfield
    exact hsame (hplace.parameter hconv (List.mem_append_right _ hfs) hv hread hp hn)
  | requestBody ho hkey hb ht hn =>
    exact hsame (requestBody_place hroot hcontents hconv ho hkey hb ht hn)
  | response ho hkey hr hcontent ht hn =>
    obtain ⟨s, rfl, hshort, hplace⟩ :=
      response_place hroot hcontents hconv ho hkey hr hcontent ht hn
    refine ⟨_, ?_, fun t ht => Or.inr ?_, hplace⟩
    · rfl
    · simp only [List.mem_cons, List.not_mem_nil, or_false] at ht
      rcases ht with rfl | rfl | rfl | rfl | rfl | rfl | rfl | rfl
      all_goals first | exact hshort | trivial

end

/-- **The pointer to a schema leads to that schema**, whatever has been looked up before.  Only the
schemas of the components may go one level deeper than what is found there, which is then the same
schema without that level. -/
theorem schema_inline {content : Value} {doc : Document} (hcontent : content.WellFormed 0)
    (hread : Document.model.read content = .valid doc) (hconv : Conventional doc.raw)
    {ss : List Segment} {depth : ℕ} {n : Node} (hinline : Inline doc ss depth n)
    (hshort : ∀ s ∈ ss, s.IsShort) {s : Session} (hs : Faithful doc.raw s) :
    ∃ m, (schema doc.raw (pointer ss) s).1 = .ok m ∧ prune (maxDepth - 1) n = some m ∧
      (m = n ↔ Fits (maxDepth - 1) n) ∧ (0 < depth → m = n) := by
  obtain ⟨hfields, hcontents⟩ := Description.contents_of_read hread
  have hroot : LeadsTo doc.raw [] doc.raw := leadsTo_nil hcontent hfields
  obtain ⟨ts, htexts, hts, v, hplace, hnode⟩ := hinline.place hroot hcontents hconv
  -- What stands there is read once at its depth and once on its own.
  have hdepth : depth ≤ 1 := by cases hinline <;> decide
  obtain ⟨m, hm, hpruned, hsame⟩ := read_of_readAt hdepth hnode
  have hne : ts ≠ [] := by
    rintro rfl
    cases hinline <;> cases htexts
  have hall : ts.find? (fun t => ¬ t.IsShort) = none :=
    List.find?_eq_none.mpr fun t ht => by
      simpa using (hts t ht).elim (hshort t) id
  have hresolve : resolve doc.raw (pointer ss) = .ok v := by
    rw [← pointer_congr htexts, hplace.resolve_eq hne, hall]
  have htarget : target doc.raw (pointer ss) = .ok m :=
    target_eq_ok.mpr ⟨v, hresolve, isMapping_of_read hm, hm⟩
  refine ⟨m, (congrFun hs _).trans htarget, hpruned, hsame, fun hpos => ?_⟩
  obtain rfl : depth = 1 := Nat.le_antisymm hdepth hpos
  exact Checked.valid.inj (hm.symm.trans hnode)

/-! ### A path and a component -/

/-- The fields of a description with one path. -/
def onePath (path : String) (entries : Fields) : Fields :=
  [(.str "paths", .map [(.str path, .map entries)])]

/-- A description with one path, as it is read. -/
def onePathDocument (path : String) (entries : Fields) (item : PathItem) : Document where
  contents := ⟨none, none, none, [(path, item)], none, []⟩
  raw := onePath path entries

/-- The entries of a path with an operation that is spelled in capitals and answers with a number as
its status code. -/
def answering : Fields :=
  let media : Value := .map [(.str "schema", .map [(.str "type", .str "string")])]
  let response : Value := .map [(.str "content", .map [(.str "application/json", media)])]
  [(.str "GET", .map [(.str "responses", .map [(.int 200, response)])])]

/-- The operation, as it is read. -/
def answeringOperation : Operation :=
  ⟨none, none, none, none, none, none,
    [("200", .object ⟨none, some [("application/json", ⟨some textSchema, []⟩)], []⟩)], false, []⟩

/-- The way to the schema of its response. -/
def answerWay : List Segment :=
  [.name "paths", .name "/a~b", .name "GET", .name "responses", .name "200", .name "content",
    .name "application/json", .name "schema"]

/-- The description with this path, as it is read. -/
def answeringDocument : Document :=
  onePathDocument "/a~b" answering ⟨none, none, none, [("get", answeringOperation)], []⟩

/-- The pointer leads from the method in capitals through the number to the schema. -/
theorem schema_inline_answering :
    (Value.map (onePath "/a~b" answering)).WellFormed 0 ∧
      Document.model.read (.map (onePath "/a~b" answering)) = .valid answeringDocument ∧
      Conventional answeringDocument.raw ∧ Inline answeringDocument answerWay 1 textSchema ∧
      (∀ s ∈ answerWay, s.IsShort) ∧
      (schema answeringDocument.raw (pointer answerWay) .fresh).1 = .ok textSchema := by
  have hcontent : (Value.map (onePath "/a~b" answering)).WellFormed 0 := by
    simp [onePath, answering, Value.WellFormed, Fields.KeysDistinct, WellFormedFields,
      WellFormedField]
  have hread : Document.model.read (.map (onePath "/a~b" answering))
      = .valid answeringDocument := rfl
  have hconv : Conventional answeringDocument.raw :=
    ⟨by decide, by decide, by decide, by decide, by decide, by decide⟩
  have hdeclares : answeringDocument.Declares "/a~b" "get" answeringOperation :=
    ⟨_, List.mem_singleton_self _, List.mem_singleton_self _⟩
  have hspells : Spells answeringDocument.raw "/a~b" "GET" "get" :=
    ⟨answering, List.mem_singleton_self _, rfl, by decide⟩
  have hinline : Inline answeringDocument answerWay 1 textSchema :=
    .response hdeclares hspells (List.mem_singleton_self _) rfl (List.mem_singleton_self _) rfl
  obtain ⟨m, hm, -, -, hsame⟩ :=
    schema_inline hcontent hread hconv hinline (by decide) (faithful_fresh _)
  refine ⟨hcontent, hread, hconv, hinline, by decide, ?_⟩
  rw [hm, hsame Nat.one_pos]

/-- The way to the schema of a component. -/
def componentWay (name : String) : List Segment :=
  [.name "components", .name "schemas", .name name]

section

variable {v : Value} (hv : v.WellFormed 0)

include hv

theorem fields?_single (k : Key) : (Value.map [(k, v)]).fields? = some [(k, v)] :=
  fields?_map (List.forall_mem_singleton.mpr hv)

theorem wellFormed_single (k : Key) : (Value.map [(k, v)]).WellFormed 0 :=
  wellFormed_map (List.pairwise_singleton _ _) (List.forall_mem_singleton.mpr hv)

theorem wellFormed_oneSchema (name : String) :
    (Value.map (oneSchema (.str name) v)).WellFormed 0 :=
  wellFormed_single (wellFormed_single (wellFormed_single hv _) _) _

variable {name : String} {n : Node}

/-- A description with one component is read as the component is. -/
theorem read_oneSchema (hread : Node.readAt 0 v = .valid n) :
    Document.model.read (.map (oneSchema (.str name) v))
      = .valid (oneSchemaDocument (.str name) v name n) := by
  have hnamed : (Value.map [(.str name, v)]).toMappingOf (Node.readAt 0) = .valid [(name, n)] :=
    toMappingOf_eq_valid.mpr ⟨_, _, fields?_single hv _,
      checkEntries_cons_eq_valid.mpr ⟨name, n, [], rfl, hread, rfl, rfl⟩, rfl⟩
  have hschemas : Fields.optional [(.str "schemas", .map [(.str name, v)])] "schemas" []
      (Value.toMappingOf (Node.readAt 0)) = .valid (some [(name, n)]) :=
    Checked.under_eq_valid.mpr (Checked.map_eq_valid.mpr ⟨_, hnamed, rfl⟩)
  have hmodel : Description.Components.model.ofFields [(.str "schemas", .map [(.str name, v)])]
      = .valid ⟨some [(name, n)], none, none, none, []⟩ :=
    Description.Components.ofFields_eq_valid.mpr ⟨hschemas, rfl, rfl, rfl, rfl⟩
  have hcomponents : (oneSchema (.str name) v).optional "components" []
      Description.Components.model.read = .valid (some ⟨some [(name, n)], none, none, none, []⟩) :=
    Checked.under_eq_valid.mpr (Checked.map_eq_valid.mpr
      ⟨_, Model.read_eq_valid.mpr ⟨_, fields?_single (wellFormed_single hv _) _, hmodel⟩, rfl⟩)
  have hcontents : Contents.model.ofFields (oneSchema (.str name) v)
      = .valid (oneSchemaDocument (.str name) v name n).contents :=
    Contents.ofFields_eq_valid.mpr ⟨rfl, rfl, rfl, rfl, hcomponents, rfl⟩
  exact Model.read_eq_valid.mpr
    ⟨_, fields?_single (wellFormed_single (wellFormed_single hv _) _) _,
      Checked.map_eq_valid.mpr ⟨_, hcontents, rfl⟩⟩

theorem conventional_oneSchema : Conventional (oneSchema (.str name) v) := by
  have hentries : schemaEntries (oneSchema (.str name) v) = [(.str name, v)] := by
    rw [schemaEntries]
    simp only [oneSchema, Fields.get?_cons, if_true, Option.bind_some,
      fields?_single (wellFormed_single hv _), fields?_single hv, Option.getD_some]
  have hpaths : pathEntries (oneSchema (.str name) v) = [] := rfl
  have hoperations : operationEntries (oneSchema (.str name) v) = [] := rfl
  have hbodies : bodyEntries (oneSchema (.str name) v) = [] := rfl
  have hmedia : parameterEntries (oneSchema (.str name) v) ++ mediaEntries (oneSchema (.str name) v)
      = [] := rfl
  -- Without paths there is nothing to say but of the component's name.
  refine ⟨hentries ▸ List.forall_mem_singleton.mpr rfl, ?_, ?_, ?_, ?_, ?_⟩ <;>
    simp [hpaths, hoperations, hbodies, hmedia]

end

/-- **A component may go one level too deep** for the pointer to lead to all of it. -/
theorem not_schema_inline :
    ¬ ∀ (content : Value) (doc : Document) (ss : List Segment) (depth : ℕ) (n : Node),
      content.WellFormed 0 → Document.model.read content = .valid doc → Conventional doc.raw →
        Inline doc ss depth n → (schema doc.raw (pointer ss) .fresh).1 = .ok n := by
  intro h
  have hwell : (nest 254).WellFormed 0 := wellFormed_nest 254
  have hwhole : Node.readAt 0 (nest 254) = .valid (tower 254) := readAt_nest (by decide) 254
  have hpruned : Node.read (nest 254) = .valid (tower 253) := readAt_nest (by decide) 254
  have hread : Document.model.read (.map (oneSchema (.str "A") (nest 254)))
      = .valid (oneSchemaDocument (.str "A") (nest 254) "A" (tower 254)) :=
    read_oneSchema hwell hwhole
  have hinline : Inline (oneSchemaDocument (.str "A") (nest 254) "A" (tower 254))
      (componentWay "A") 0 (tower 254) := .component ⟨_, _, rfl, rfl, rfl⟩
  have hpointer : pointer (componentWay "A") = componentPointer "A" := by decide
  have hroot : ∀ f ∈ oneSchema (.str "A") (nest 254), f.2.WellFormed 0 :=
    List.forall_mem_singleton.mpr (wellFormed_single (wellFormed_single hwell _) _)
  have hresolve : resolve (oneSchema (.str "A") (nest 254)) (pointer (componentWay "A"))
      = .ok (nest 254) := by
    rw [hpointer]
    exact resolve_componentPointer hroot rfl (fields?_single (wellFormed_single hwell _) _) rfl
      (fields?_single hwell _) rfl
  have htarget : target (oneSchema (.str "A") (nest 254)) (pointer (componentWay "A"))
      = .ok (tower 253) := target_eq_ok.mpr ⟨_, hresolve, isMapping_of_read hpruned, hpruned⟩
  have hfound := h _ _ _ _ _ (wellFormed_oneSchema hwell "A") hread (conventional_oneSchema hwell)
    hinline
  have hsame : tower 254 = tower 253 :=
    Except.ok.inj ((hfound.symm.trans (congrFun (faithful_fresh _) _)).trans htarget)
  exact absurd (tower_injective hsame) (by decide)

end ServerActions.Reference
