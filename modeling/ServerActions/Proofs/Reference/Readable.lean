import ServerActions.Action.Source
import ServerActions.Proofs.Reference.Memory
import ServerActions.Proofs.Reference.Transparency
import ServerActions.Proofs.TypeScript.Reading

/-!
# The types of schemas are made properly

The properties of a schema are read from a mapping, so their names are distinct.  A composition is
looked at only if it has members, and one member stands for itself.  Therefore a type of a schema
can be read from its text, as long as no names of properties have two surrogates that are quoted
like one character.

## Main definitions

* `NamesDistinct` — the properties of a node, and of the nodes inside of it, have distinct names.
* `Synthesized` — a type is that of some node of some description.

## Main results

* `namesDistinct_of_read` — a node that is read from a value is such.
* `Synthesized.proper` — the types of nodes are made properly.
* `synthesized_readable` — **the types of nodes can be read from their texts**, and so can those of
  the results of calls.
* `surrogates_written_alike` — two surrogates in a name are written like the character they make up.
-/

namespace ServerActions.Reference

open Description (Node Keywords Extras NodeReader readAll itemsOf propertiesOf propertyEntries
  nodesOf)
open Relation (ReflTransGen)
open TypeScript (TypeExpr Member)
open TypeScript.TypeExpr (schemaNames proper_prim proper_array proper_map proper_record proper_union
  proper_inter)

/-! ### Nodes whose properties have distinct names -/

/-- The properties of a node have distinct names, and so have those of the nodes inside of it. -/
inductive NamesDistinct : Node → Prop
  | reference (r : Description.Reference) : NamesDistinct (.reference r)
  | schema {k : Keywords} {items : Option Node} {properties : Option (List (String × Node))}
      {allOf oneOf anyOf : Option (List Node)} {extras : Extras}
      (hnames : ((properties.getD []).map Prod.fst).Nodup)
      (hinside : ∀ m ∈ keywordNodes items properties allOf oneOf anyOf, NamesDistinct m) :
      NamesDistinct (.schema k items properties allOf oneOf anyOf extras)

section

variable {compositions : Bool} {n m : Node} {l : Layer}

theorem NamesDistinct.of_mem_children (h : NamesDistinct n) (hm : m ∈ children compositions n) :
    NamesDistinct m := by
  cases h with
  | reference r => cases hm
  | schema hnames hinside => exact hinside m (layer_parts_subset _ _ _ _ _ _ _ m hm)

theorem NamesDistinct.of_mem_parts (h : NamesDistinct n) (hl : layer? compositions n = some l)
    (hm : m ∈ l.parts) : NamesDistinct m :=
  h.of_mem_children (by rwa [children_of_layer? hl])

end

section

variable {read : NodeReader} {fs : Fields}

/-- The names of the properties in a mapping are distinct, as its keys are. -/
theorem nodup_propertyEntries (h : fs.KeysDistinct) :
    ((propertyEntries fs).map Prod.fst).Nodup := by
  induction fs with
  | nil => exact List.nodup_nil
  | cons f fs ih =>
    rw [Fields.KeysDistinct, List.map_cons, List.pairwise_cons] at h
    obtain ⟨hfirst, hrest⟩ := h
    rw [propertyEntries, List.filterMap_cons]
    split
    · exact ih hrest
    · next e he =>
      -- A name that came again would be a key that came again.
      have hkey : f.1 = .str e.1 := by
        have hmem : e ∈ propertyEntries [f] := by
          rw [propertyEntries, List.filterMap_cons, he]
          exact List.mem_singleton_self e
        obtain rfl := List.mem_singleton.mp (mem_of_mem_propertyEntries hmem)
        rfl
      refine List.nodup_cons.mpr ⟨fun hmem => ?_, ih hrest⟩
      obtain ⟨e', he', hname⟩ := List.mem_map.mp hmem
      have hsame := hfirst _ (List.mem_map_of_mem (mem_of_mem_propertyEntries he'))
      rw [hkey, hname, Key.same_str, decide_eq_false_iff_not] at hsame
      exact hsame rfl

theorem nodup_propertiesOf (h : ∀ f ∈ fs, f.2.WellFormed 0) :
    (((propertiesOf read fs).getD []).map Prod.fst).Nodup := by
  cases hps : propertiesOf read fs with
  | none => exact List.nodup_nil
  | some ps =>
    simp only [propertiesOf, Option.bind_eq_bind, Option.bind_eq_some_iff, Option.pure_def,
      Option.some.injEq] at hps
    obtain ⟨w, hw, inner, hinner, ns, hns, rfl⟩ := hps
    have hlen : ((propertyEntries inner).map Prod.fst).length ≤ ns.length := by
      rw [← (readAll_eq_some_iff.mp hns).length_eq, List.length_map, List.length_map]
    rw [Option.getD_some, List.map_fst_zip hlen]
    exact nodup_propertyEntries ((h _ (Fields.mem_of_get? hw)).fields hinner).1

end

theorem namesDistinct_of_readWithin (levels : ℕ) : ∀ (around : List Value) (v : Value) (n : Node),
    v.WellFormed 0 → Node.readWithin levels around v = .valid n → NamesDistinct n := by
  induction levels with
  | zero => intro around v n _ h; simp [Node.readWithin] at h
  | succ levels ih =>
    intro around v n hv h
    rw [Node.readWithin] at h
    split_ifs at h with hsame href
    · simp at h
    · simp only [Checked.under_eq_valid, Checked.map_eq_valid] at h
      obtain ⟨r, -, rfl⟩ := h
      exact .reference r
    · simp only [Checked.under_eq_valid, Model.read_eq_valid, schemaWith_eq_valid] at h
      obtain ⟨fs, hfs, extras, -, rfl⟩ := h
      refine .schema (nodup_propertiesOf (hv.fields hfs).2) fun m hm => ?_
      obtain ⟨w, hw, f, hf, hinside⟩ := read_of_mem_keywordNodes hm
      exact ih _ w m (((hv.fields hfs).2 f hf).of_contains hinside) hw

/-- **The properties of a node that is read from a value have distinct names.** -/
theorem namesDistinct_of_read {depth : ℕ} {v : Value} {n : Node} (hv : v.WellFormed 0)
    (h : Node.readAt depth v = .valid n) : NamesDistinct n :=
  namesDistinct_of_readWithin _ _ v n hv h

/-! ### Layers -/

/-- What is looked at in a schema has distinct names, or members, and a type that is known is made
properly. -/
def Layer.Orderly : Layer → Prop
  | .leaf t => t.Proper schemaNames
  | .array _ => True
  | .record _ ps => (ps.map Prod.fst).Nodup
  | .union ms => ms ≠ []
  | .inter ms => ms ≠ []

section

variable {compositions : Bool} {n : Node} {l : Layer}

theorem proper_any : TypeExpr.any.Proper schemaNames :=
  proper_prim.mpr (by decide)

theorem proper_scalarType (name : String) : (scalarType name).Proper schemaNames := by
  unfold scalarType
  split_ifs <;> exact proper_prim.mpr (by decide)

theorem orderly_typed (k : Keywords) (items : Option Node)
    {properties : Option (List (String × Node))}
    (hnames : ((properties.getD []).map Prod.fst).Nodup) : (typed k items properties).Orderly := by
  unfold typed
  split
  · next name _ =>
    split_ifs
    · cases items with
      | none => exact proper_array.mpr proper_any
      | some n => trivial
    · cases properties with
      | none => exact proper_map.mpr proper_any
      | some ps => exact hnames
    · exact proper_scalarType name
  · exact proper_any

/-- A composition is looked at only if it has a member. -/
theorem orderly_composition? {allOf oneOf anyOf : Option (List Node)}
    (h : composition? allOf oneOf anyOf = some l) : l.Orderly := by
  rcases composition?_cases allOf oneOf anyOf with
    ⟨m, ms, -, heq⟩ | ⟨-, m, ms, -, heq⟩ | ⟨-, -, m, ms, -, heq⟩ | ⟨-, -, -, heq⟩ <;>
      cases heq.symm.trans h <;> exact List.cons_ne_nil m ms

theorem orderly_of_layer? (hn : NamesDistinct n) (hl : layer? compositions n = some l) :
    l.Orderly := by
  cases hn with
  | reference r => cases hl
  | @schema k items properties allOf oneOf anyOf extras hnames hinside =>
    obtain rfl := Option.some.inj hl
    rcases layer_cases compositions k items properties allOf oneOf anyOf with
      ⟨l, -, hcomposition, heq⟩ | ⟨-, heq⟩
    · exact heq ▸ orderly_composition? hcomposition
    · exact heq ▸ orderly_typed k items hnames

/-- Types put together are made properly, if two of them or more are. -/
theorem proper_composed {combine : List TypeExpr → TypeExpr} {ts : List TypeExpr}
    (hcombine : 2 ≤ ts.length → (combine ts).Proper schemaNames) (hne : ts ≠ [])
    (hts : ∀ t ∈ ts, t.Proper schemaNames) : (composed combine ts).Proper schemaNames := by
  match ts with
  | [] => exact absurd rfl hne
  | [t] => exact hts t (List.mem_singleton_self t)
  | _ :: _ :: _ => exact hcombine (by simp)

/-- **The type of a schema is made properly**, when those of its parts are. -/
theorem proper_assemble (hl : l.Orderly) {ts : List TypeExpr} (hlen : l.parts.length = ts.length)
    (hts : ∀ t ∈ ts, t.Proper schemaNames) : (l.assemble ts).Proper schemaNames := by
  have hne : l.parts ≠ [] → ts ≠ [] := by
    rintro hparts rfl
    exact hparts (List.length_eq_zero_iff.mp hlen)
  cases l with
  | leaf t => exact hl
  | array n =>
    obtain ⟨t, rfl⟩ := List.length_eq_one_iff.mp hlen.symm
    exact proper_array.mpr (hts t (List.mem_singleton_self t))
  | record required ps =>
    rw [Layer.parts, List.length_map] at hlen
    have hnames : (List.zipWith (member required) ps ts).map Member.name = ps.map Prod.fst := by
      have hpairs := congrArg (List.map Prod.fst) (@map_names_zipWith ts required ps hlen)
      rwa [List.map_map, List.map_map] at hpairs
    have htypes : (List.zipWith (member required) ps ts).map Member.type = ts :=
      map_type_zipWith hlen
    exact proper_record.mpr
      ⟨hnames ▸ hl, fun m hm => hts _ (htypes ▸ List.mem_map_of_mem hm)⟩
  | union ms => exact proper_composed (fun h => proper_union.mpr ⟨h, hts⟩) (hne hl) hts
  | inter ms => exact proper_composed (fun h => proper_inter.mpr ⟨h, hts⟩) (hne hl) hts

end

/-! ### Sessions -/

/-- The schemas that a session remembers are such that their properties have distinct names. -/
def Session.NamesDistinct (s : Session) : Prop :=
  ∀ m ∈ s.memo, Reference.NamesDistinct m.2

section

variable {root : Fields} {compositions : Bool} {n : Node} {s : Session} {t : TypeExpr}

/-- The schemas that pointers lead to are such. -/
theorem namesDistinct_of_target (hroot : (Value.map root).WellFormed 0) {ref : String}
    (h : target root ref = .ok n) : NamesDistinct n := by
  obtain ⟨v, hv, hread⟩ := contains_of_target h
  exact namesDistinct_of_read (hroot.of_contains hv) hread

theorem namesDistinct_of_find (hroot : (Value.map root).WellFormed 0) (hs : s.NamesDistinct)
    {ref : String} (h : s.find root ref = .ok n) : NamesDistinct n := by
  rcases mem_memo_or_target_of_find h with hmem | htarget
  · exact hs _ hmem
  · exact namesDistinct_of_target hroot htarget

theorem namesDistinct_fresh : Session.fresh.NamesDistinct :=
  fun _ h => absurd h List.not_mem_nil

/-- A session goes on to remember only such schemas. -/
theorem namesDistinct_schema (hroot : (Value.map root).WellFormed 0) (ref : String) :
    Run.Preserves Session.NamesDistinct (schema root ref) := by
  refine fun s hs => ⟨trivial, fun m hm => ?_⟩
  rcases memo_schema root ref s with hmemo | ⟨n, htarget, hmemo⟩
  · exact hs m (hmemo ▸ hm)
  · rw [hmemo] at hm
    rcases List.mem_append.mp hm with hm | hm
    · exact hs m hm
    · obtain rfl := List.mem_singleton.mp hm
      exact namesDistinct_of_target hroot htarget

/-- So it does when a type is synthesized. -/
theorem namesDistinct_typeOf (hroot : (Value.map root).WellFormed 0) (n : Node) :
    Run.Preserves Session.NamesDistinct (typeOf root compositions n) :=
  preserves_typeOf (namesDistinct_schema hroot) (fun _ _ hs => ⟨trivial, hs⟩) n

/-! ### Types of nodes -/

/-- **A node whose properties have distinct names yields a type that is made properly.** -/
theorem Yields.proper {find : Finder} {following : List String}
    (hfind : ∀ ref m, find ref = .ok m → NamesDistinct m)
    (h : Yields find compositions following n t) : NamesDistinct n → t.Proper schemaNames := by
  induction h with
  | again hr => exact fun _ => proper_prim.mpr (by decide)
  | target hr hm _ ih => exact fun _ => ih (hfind _ _ hm)
  | @layer following n l ts hl hlen _ ih =>
    intro hn
    refine proper_assemble (orderly_of_layer? hn hl) hlen fun t ht => ?_
    obtain ⟨m, hm⟩ := exists_zip_right hlen ht
    exact ih (m, t) hm (hn.of_mem_parts hl (List.of_mem_zip hm).1)

/-- A type is made of some node, or where there is none, of some description in some session. -/
inductive Synthesized : TypeExpr → Prop
  | intro {root : Fields} {compositions : Bool} {n : Option Node} {s : Session} {t : TypeExpr}
      (hroot : (Value.map root).WellFormed 0) (hn : ∀ m, n = some m → NamesDistinct m)
      (hs : s.NamesDistinct) (h : (typeOf? root compositions n s).1 = .ok t) : Synthesized t

/-- The types of nodes are made properly. -/
theorem Synthesized.proper (h : Synthesized t) : t.Proper schemaNames := by
  obtain @⟨root, compositions, n, s, t, hroot, hn, hs, h⟩ := h
  cases n with
  | none =>
    obtain rfl := Except.ok.inj h
    exact proper_any
  | some n =>
    have hyields : Yields (s.find root) compositions [] n t := (outcome_typeOf s n _).mp h
    exact hyields.proper (fun ref m hm => namesDistinct_of_find hroot hs hm) (hn n rfl)

/-- **Types that can be made of schemas can be read from their texts**: they are made properly, and
with whole names they are the same when they are written alike, and so are the types of the results
of calls. -/
theorem synthesized_readable {t u : TypeExpr} (ht : Synthesized t) (hu : Synthesized u) :
    t.Proper schemaNames ∧ u.Proper schemaNames ∧ (t.WholeNames → u.WholeNames →
      (t.text = u.text → t = u) ∧
        ∀ a b : Action.Unit, a.responseType = t → b.responseType = u →
          a.returnType.text = b.returnType.text → a.returnType = b.returnType ∧ t = u) := by
  have hsub : schemaNames ⊆ TypeScript.TypeExpr.resultNames := List.subset_cons_self ..
  refine ⟨ht.proper, hu.proper, fun htnames hunames => ⟨?_, ?_⟩⟩
  · exact TypeScript.TypeExpr.eq_of_text_eq ⟨ht.proper.mono hsub, htnames⟩
      ⟨hu.proper.mono hsub, hunames⟩
  · rintro a b rfl rfl htext
    have htypes : a.responseType = b.responseType :=
      TypeScript.TypeExpr.eq_of_text_orNull_eq ht.proper hu.proper htnames hunames htext
    exact ⟨congrArg TypeExpr.orNull htypes, htypes⟩

end

/-- A schema with a type alone. -/
def plain (type : String) : Node :=
  .schema (Keywords.read [(.str "type", .str type)]) none none none none none []

/-- A schema with alternatives alone. -/
def choice (ns : List Node) : Node :=
  .schema (Keywords.read []) none none none (some ns) none []

/-- A schema with one property that is a text. -/
def recordOf (name : String) : Node :=
  .schema (Keywords.read [(.str "type", .str "object")]) none (some [(name, plain "string")]) none
    none none []

theorem namesDistinct_plain (type : String) : NamesDistinct (plain type) :=
  .schema List.nodup_nil fun _ hm => nomatch hm

theorem namesDistinct_choice {ns : List Node} (h : ∀ n ∈ ns, NamesDistinct n) :
    NamesDistinct (choice ns) :=
  .schema List.nodup_nil fun m hm => h m (by simpa [keywordNodes] using hm)

theorem namesDistinct_recordOf (name : String) : NamesDistinct (recordOf name) :=
  .schema (List.nodup_singleton name) fun m hm => by
    obtain rfl : m = plain "string" := by simpa [keywordNodes] using hm
    exact namesDistinct_plain _

/-- Alternatives inside of alternatives are told from the same ones side by side. -/
theorem synthesized_readable_nested :
    Synthesized (.union [.string, .number, .boolean]) ∧
      Synthesized (.union [.string, .union [.number, .boolean]]) ∧
      (TypeExpr.union [.string, .number, .boolean]).WholeNames ∧
      (TypeExpr.union [.string, .union [.number, .boolean]]).WholeNames ∧
      (TypeExpr.union [.string, .number, .boolean]).text
        ≠ (TypeExpr.union [.string, .union [.number, .boolean]]).text := by
  have hinner : NamesDistinct (choice [plain "number", plain "boolean"]) :=
    namesDistinct_choice (by simp [namesDistinct_plain])
  have hflat : Synthesized (.union [.string, .number, .boolean]) := by
    refine @Synthesized.intro [] true
      (some (choice [plain "string", plain "number", plain "boolean"])) .fresh _ ⟨.nil, trivial⟩ ?_
      namesDistinct_fresh rfl
    rintro m ⟨⟩
    exact namesDistinct_choice (by simp [namesDistinct_plain])
  have hnested : Synthesized (.union [.string, .union [.number, .boolean]]) := by
    refine @Synthesized.intro [] true
      (some (choice [plain "string", choice [plain "number", plain "boolean"]])) .fresh _
      ⟨.nil, trivial⟩ ?_ namesDistinct_fresh rfl
    rintro m ⟨⟩
    exact namesDistinct_choice (by simp [namesDistinct_plain, hinner])
  have hprim : ∀ t ∈ [TypeExpr.string, .number, .boolean], t.WholeNames := by
    simp [TypeExpr.string, TypeExpr.number, TypeExpr.boolean, TypeScript.TypeExpr.wholeNames_prim]
  have hflatNames := TypeScript.TypeExpr.wholeNames_union.mpr hprim
  have hnestedNames : (TypeExpr.union [.string, .union [.number, .boolean]]).WholeNames := by
    obtain ⟨hstring, hrest⟩ := List.forall_mem_cons.mp hprim
    exact TypeScript.TypeExpr.wholeNames_union.mpr (List.forall_mem_cons.mpr ⟨hstring,
      List.forall_mem_singleton.mpr (TypeScript.TypeExpr.wholeNames_union.mpr hrest)⟩)
  refine ⟨hflat, hnested, hflatNames, hnestedNames, fun htext => ?_⟩
  have heq := ((synthesized_readable hflat hnested).2.2 hflatNames hnestedNames).1 htext
  cases heq

/-- Two surrogates in the name of a property are written like the character that they make up, where
the two types are made one after the other in one session. -/
theorem surrogates_written_alike :
    let pair := String.ofList (Text.spelling [0xD83D, 0xDE00])
    let whole := String.ofList (Text.spelling [0x1F600])
    let t := TypeExpr.record [⟨pair, .string, true⟩]
    let u := TypeExpr.record [⟨whole, .string, true⟩]
    Synthesized t ∧ Synthesized u ∧ t.text = u.text ∧ t ≠ u := by
  intro pair whole t u
  have hroot : (Value.map []).WellFormed 0 := ⟨.nil, trivial⟩
  have hsession : (typeOf [] true (recordOf pair) .fresh).2.NamesDistinct :=
    (namesDistinct_typeOf hroot (recordOf pair) .fresh namesDistinct_fresh).2
  have hnames : ∀ name m, some (recordOf name) = some m → NamesDistinct m := by
    rintro name m ⟨⟩
    exact namesDistinct_recordOf name
  refine ⟨@Synthesized.intro [] true (some (recordOf pair)) .fresh t hroot (hnames pair)
      namesDistinct_fresh rfl,
    @Synthesized.intro [] true (some (recordOf whole)) _ u hroot (hnames whole) hsession rfl,
    by decide +kernel, ?_⟩
  intro heq
  have hname : pair = whole := congrArg Member.name
    (List.head_eq_of_cons_eq (TypeExpr.record.inj heq))
  exact absurd hname (by decide +kernel)

end ServerActions.Reference
