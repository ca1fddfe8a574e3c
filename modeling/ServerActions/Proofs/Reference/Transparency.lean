import ServerActions.Proofs.Reference.Components
import ServerActions.Proofs.Reference.Reachability

/-!
# References stand for what they point to

A reference to a component has a type if and only if the component's schema has one.  While the
reference is being followed, it is cut where it is met again, so its type is the schema's with some
parts abridged; where the schema does not lead back to the reference, the two types are the same.

## Main definitions

* `Abridges` — a type is another one with some parts replaced by the type that stands in for a
  schema within itself.

## Main results

* `Yields.abridges` — the more references are being followed, the more of a type is abridged.
* `Yields.of_not_meets` — references that are not met change nothing.
* `typeOf_component` — **a reference to a component has the type of its schema**, abridged at most
  where the schema leads back to the reference.
-/

namespace ServerActions.Reference

open Description (Document Node maxDepth)
open TypeScript (TypeExpr Member)

/-! ### Abridged types -/

/-- A type is another one with some parts replaced by the type that stands in for a schema within
itself. -/
inductive Abridges : TypeExpr → TypeExpr → Prop
  | same (t : TypeExpr) : Abridges t t
  | cut (t : TypeExpr) : Abridges .circular t
  | array {t u : TypeExpr} (h : Abridges t u) : Abridges (.array t) (.array u)
  | map {t u : TypeExpr} (h : Abridges t u) : Abridges (.map t) (.map u)
  | record {ms ns : List (Member TypeExpr)}
      (hnames : (ms.map fun m => (m.name, m.optional)) = ns.map fun n => (n.name, n.optional))
      (h : ∀ q ∈ (ms.map Member.type).zip (ns.map Member.type), Abridges q.1 q.2) :
      Abridges (.record ms) (.record ns)
  | union {ts us : List TypeExpr} (hlen : ts.length = us.length)
      (h : ∀ q ∈ ts.zip us, Abridges q.1 q.2) : Abridges (.union ts) (.union us)
  | inter {ts us : List TypeExpr} (hlen : ts.length = us.length)
      (h : ∀ q ∈ ts.zip us, Abridges q.1 q.2) : Abridges (.inter ts) (.inter us)

section

variable {ts us : List TypeExpr}

/-- What stands at one place of two lists stands there beside the same member of a third one. -/
theorem exists_zip_zip {α β γ : Type} {as : List α} {bs : List β} {cs : List γ}
    (hb : as.length = bs.length) (hc : as.length = cs.length) {q : β × γ} (hq : q ∈ bs.zip cs) :
    ∃ a, (a, q.1) ∈ as.zip bs ∧ (a, q.2) ∈ as.zip cs := by
  induction as generalizing bs cs with
  | nil =>
    rw [List.length_eq_zero_iff.mp hb.symm] at hq
    cases hq
  | cons a as ih =>
    match bs, cs, hb, hc with
    | b :: bs, c :: cs, hb, hc =>
      rcases List.mem_cons.mp hq with rfl | hq
      · exact ⟨a, List.mem_cons_self .., List.mem_cons_self ..⟩
      · obtain ⟨a', hab, hac⟩ := ih (Nat.succ.inj hb) (Nat.succ.inj hc) hq
        exact ⟨a', List.mem_cons_of_mem _ hab, List.mem_cons_of_mem _ hac⟩

/-- Of abridged members an abridged composition is put together. -/
theorem abridges_composed {combine : List TypeExpr → TypeExpr} (hlen : ts.length = us.length)
    (h : ∀ q ∈ ts.zip us, Abridges q.1 q.2) (hcombine : Abridges (combine ts) (combine us)) :
    Abridges (composed combine ts) (composed combine us) := by
  match ts, us, hlen with
  | [], [], _ => exact hcombine
  | [t], [u], _ => exact h (t, u) (List.mem_singleton_self _)
  | _ :: _ :: _, _ :: _ :: _, _ => exact hcombine

/-- The names of the members of a record are those of its properties, whatever their types are. -/
theorem map_names_zipWith {required : List String} {ps : List (String × Node)}
    (hlen : ps.length = ts.length) :
    ((List.zipWith (member required) ps ts).map fun m => (m.name, m.optional))
      = ps.map fun p => (p.1, !required.contains p.1) := by
  induction ps generalizing ts with
  | nil => rfl
  | cons p ps ih =>
    match ts, hlen with
    | t :: ts, hlen =>
      rw [List.zipWith_cons_cons, List.map_cons, ih (Nat.succ.inj hlen), List.map_cons]
      rfl

/-- Of abridged parts an abridged type is put together. -/
theorem abridges_assemble {l : Layer} (hlen : l.parts.length = ts.length)
    (hlen' : l.parts.length = us.length) (h : ∀ q ∈ ts.zip us, Abridges q.1 q.2) :
    Abridges (l.assemble ts) (l.assemble us) := by
  have hlens : ts.length = us.length := hlen.symm.trans hlen'
  cases l with
  | leaf t => exact .same t
  | array n =>
    match ts, us, hlen, hlen' with
    | [t], [u], _, _ => exact .array (h (t, u) (List.mem_singleton_self _))
  | record required ps =>
    rw [Layer.parts, List.length_map] at hlen hlen'
    refine .record ?_ ?_
    · rw [map_names_zipWith hlen, map_names_zipWith hlen']
    · rw [map_type_zipWith hlen, map_type_zipWith hlen']
      exact h
  | union ms => exact abridges_composed hlens h (.union hlens h)
  | inter ms => exact abridges_composed hlens h (.inter hlens h)

end

/-! ### More references being followed -/

section

variable {find : Finder} {compositions : Bool} {following more : List String} {n : Node}
  {t u : TypeExpr}

/-- **The more references are being followed, the more of a type is abridged.** -/
theorem Yields.abridges (h : Yields find compositions following n t) :
    ∀ {more : List String} {u : TypeExpr}, (∀ x ∈ following, x ∈ more) →
      Yields find compositions more n u → Abridges u t := by
  induction h with
  | @again following r hr =>
    intro more u hsub hu
    have hout : Outcome find compositions more (.reference r) (.ok u) := hu
    rw [Except.ok.inj ((outcome_again (hsub _ hr)).mp hout)]
    exact .same _
  | @target following r m t hr hm _ ih =>
    intro more u hsub hu
    have hout : Outcome find compositions more (.reference r) (.ok u) := hu
    -- Here the two may differ: what one follows, the other may be following already.
    by_cases hmore : r.target ∈ more
    · rw [Except.ok.inj ((outcome_again hmore).mp hout)]
      exact .cut t
    · refine ih (fun x hx => ?_) ((outcome_target hmore hm).mp hout)
      rcases List.mem_cons.mp hx with rfl | hx
      · exact List.mem_cons_self ..
      · exact List.mem_cons_of_mem _ (hsub x hx)
  | @layer following n l ts hl hlen hts ih =>
    intro more u hsub hu
    have hout : Outcome find compositions more n (.ok u) := hu
    obtain ⟨_ | us, hus, heq⟩ := (outcome_layer hl).mp hout
    · cases heq
    · obtain ⟨hlen', hus⟩ := List.forall₂_iff_zip.mp hus
      rw [Except.ok.inj heq]
      refine abridges_assemble hlen' hlen fun q hq => ?_
      obtain ⟨m, hmore, hm⟩ := exists_zip_zip hlen' hlen hq
      exact ih (m, q.2) hm hsub (hus hmore)

/-- References that are not met change nothing. -/
theorem Yields.of_not_meets (h : Yields find compositions following n t) :
    ∀ {more : List String}, (∀ x ∈ following, x ∈ more) →
      (∀ x ∈ more, x ∈ following ∨ ¬ Meets find compositions n x) →
        Yields find compositions more n t := by
  -- The references allowed grow as the node is followed, so they are generalised.
  induction h with
  | again hr => exact fun hsub _ => .again (hsub _ hr)
  | @target following r m t hr hm _ ih =>
    intro more hsub hmore
    have hr' : r.target ∉ more := fun hmem => by
      rcases hmore _ hmem with hfollowing | hmeets
      · exact hr hfollowing
      · exact hmeets (.self r)
    refine .target hr' hm (ih (fun x hx => ?_) fun x hx => ?_)
    · rcases List.mem_cons.mp hx with rfl | hx
      · exact List.mem_cons_self ..
      · exact List.mem_cons_of_mem _ (hsub x hx)
    · rcases List.mem_cons.mp hx with rfl | hx
      · exact Or.inl (List.mem_cons_self ..)
      · exact (hmore x hx).imp (List.mem_cons_of_mem _) fun hmeets h => hmeets (h.head (.target hm))
  | @layer following n l ts hl hlen _ ih =>
    intro more hsub hmore
    refine .layer hl hlen fun q hq => ih q hq hsub fun x hx => (hmore x hx).imp_right ?_
    intro hmeets h
    exact hmeets (h.head (.child (children_of_layer? hl ▸ (List.of_mem_zip hq).1)))

end

/-! ### References to components -/

section

variable {root : Fields} {compositions : Bool} {r : Description.Reference} {n : Node}
  {s s' : Session}

/-- A reference has a type if and only if the schema it points to has one. -/
theorem typeOf_reference_succeeds_iff (hs : Faithful root s) (hs' : Faithful root s')
    (hr : target root r.target = .ok n) :
    (∃ t, (typeOf root compositions (.reference r) s).1 = .ok t) ↔
      ∃ t, (typeOf root compositions n s').1 = .ok t := by
  -- Only failing references matter, and the one that is followed does not fail.
  have hmeets : ∀ ref, (∃ e, target root ref = .error e) →
      (Meets (target root) compositions (.reference r) ref ↔
        Meets (target root) compositions n ref) := by
    rintro ref ⟨e, he⟩
    refine ⟨fun h => (h.of_target hr).resolve_left ?_, fun h => h.head (.target hr)⟩
    rintro rfl
    cases hr.symm.trans he
  have hok : ∀ {m : Node} {session : Session},
      (∃ t, (typeOf root compositions m session).1 = .ok t) ↔
        ¬ ∃ e, (typeOf root compositions m session).1 = .error e := by
    intro m session
    cases (typeOf root compositions m session).1 <;> simp
  rw [hok, hok, typeOf_fails_iff, typeOf_fails_iff, hs, hs']
  refine not_congr (exists_congr fun ref => and_congr_left fun he => hmeets ref he)

/-- The type of a reference is that of the schema it points to, abridged at most where the schema
leads back to the reference. -/
theorem typeOf_reference_abridges (hs : Faithful root s) (hs' : Faithful root s')
    (hr : target root r.target = .ok n) {t u : TypeExpr}
    (hu : (typeOf root compositions (.reference r) s).1 = .ok u)
    (ht : (typeOf root compositions n s').1 = .ok t) :
    Abridges u t ∧ (¬ Meets (target root) compositions n r.target → u = t) := by
  have houtcome : Outcome (target root) compositions [] (.reference r) (.ok u) :=
    hs ▸ (outcome_typeOf s (.reference r) (.ok u)).mp hu
  -- The schema is typed twice, while the reference is being followed and by itself.
  have hyields : Yields (target root) compositions [r.target] n u :=
    (outcome_target List.not_mem_nil hr).mp houtcome
  have hyields' : Yields (target root) compositions [] n t :=
    hs' ▸ (outcome_typeOf s' n (.ok t)).mp ht
  refine ⟨hyields'.abridges (fun _ h => absurd h List.not_mem_nil) hyields, fun hmeets => ?_⟩
  have hsame : Yields (target root) compositions [r.target] n t :=
    hyields'.of_not_meets (fun _ h => absurd h List.not_mem_nil) fun x hx =>
      Or.inr (List.mem_singleton.mp hx ▸ hmeets)
  have hunique : Except.ok u = Except.ok t := Outcome.unique hyields hsame
  exact Except.ok.inj hunique

end

/-- **A reference to a component stands for its schema.**  It has a type if and only if the schema
has one; its type is that of the schema, abridged at most where the schema leads back to the
reference.  The name of the component may be spelled by texts only, and its schema may have no more
nodes inside one another than are read on their own. -/
theorem typeOf_component (content : Value) (hcontent : content.WellFormed 0) (doc : Document)
    (hread : Document.model.read content = .valid doc) (name : String) (n : Node)
    (hcomponent : Component doc name n)
    (hspelled : ∀ f ∈ schemaEntries doc.raw, f.1.toText = .valid name → f.1 = .str name)
    (hfits : Fits (maxDepth - 1) n) (compositions : Bool) (r : Description.Reference)
    (hr : r.target = componentPointer name) (s s' : Session) (hs : Faithful doc.raw s)
    (hs' : Faithful doc.raw s') :
    ((∃ u, (typeOf doc.raw compositions (.reference r) s).1 = .ok u) ↔
        ∃ t, (typeOf doc.raw compositions n s').1 = .ok t) ∧
      ∀ u t, (typeOf doc.raw compositions (.reference r) s).1 = .ok u →
        (typeOf doc.raw compositions n s').1 = .ok t →
          Abridges u t ∧ (¬ Meets (target doc.raw) compositions n r.target → u = t) := by
  have htarget : target doc.raw r.target = .ok n :=
    hr ▸ target_component hcontent hread hcomponent hspelled hfits
  exact ⟨typeOf_reference_succeeds_iff hs hs' htarget,
    fun u t hu ht => typeOf_reference_abridges hs hs' htarget hu ht⟩

/-! ### Two components -/

/-- The fields of a description with a schema of the components under a key. -/
def oneSchema (k : Key) (schema : Value) : Fields :=
  [(.str "components", .map [(.str "schemas", .map [(k, schema)])])]

/-- The description with a schema of the components, as it is read. -/
def oneSchemaDocument (k : Key) (schema : Value) (name : String) (n : Node) : Document where
  contents := ⟨none, none, none, [], some ⟨some [(name, n)], none, none, none, []⟩, []⟩
  raw := oneSchema k schema

/-- The pointer to a component whose name has a slash and a tilde in it. -/
def slashedPointer : String := "#/components/schemas/a~1b~0c"

/-- A schema that refers to itself as that component. -/
def slashedValue : Value :=
  .map [(.str "type", .str "object"),
    (.str "properties", .map [(.str "next", .map [(.str "$ref", .str slashedPointer)])])]

/-- The same, as it is read. -/
def slashedSchema : Node :=
  .schema ⟨none, none, some (.one "object"), none, none, none, none, none⟩ none
    (some [("next", .reference ⟨slashedPointer, []⟩)]) none none none []

/-- The description with this schema. -/
def slashed : Document :=
  oneSchemaDocument (.str "a/b~c") slashedValue "a/b~c" slashedSchema

/-- The reference has the type of the schema, which leads back to it, with the recursion cut one
level sooner. -/
theorem typeOf_component_slashed :
    (Value.map (oneSchema (.str "a/b~c") slashedValue)).WellFormed 0 ∧
      Document.model.read (.map (oneSchema (.str "a/b~c") slashedValue)) = .valid slashed ∧
      Component slashed "a/b~c" slashedSchema ∧
      (∀ f ∈ schemaEntries slashed.raw, f.1.toText = .valid "a/b~c" → f.1 = .str "a/b~c") ∧
      Fits (maxDepth - 1) slashedSchema ∧ slashedPointer = componentPointer "a/b~c" ∧
      (typeOf slashed.raw true slashedSchema .fresh).1
        = .ok (.record [⟨"next", .record [⟨"next", .circular, true⟩], true⟩]) ∧
      Abridges (.record [⟨"next", .circular, true⟩])
        (.record [⟨"next", .record [⟨"next", .circular, true⟩], true⟩]) := by
  have hcontent : (Value.map (oneSchema (.str "a/b~c") slashedValue)).WellFormed 0 := by
    simp [oneSchema, slashedValue, Value.WellFormed, Fields.KeysDistinct, WellFormedFields,
      WellFormedField]
  have hcomponent : Component slashed "a/b~c" slashedSchema := ⟨_, _, rfl, rfl, rfl⟩
  have hspelled : ∀ f ∈ schemaEntries slashed.raw, f.1.toText = .valid "a/b~c" →
      f.1 = .str "a/b~c" := by
    intro f hf _
    rw [List.mem_singleton.mp hf]
    rfl
  have hfits : Fits (maxDepth - 1) slashedSchema :=
    .schema fun m hm => List.mem_singleton.mp hm ▸ .reference _ _
  have hpointer : slashedPointer = componentPointer "a/b~c" := by decide
  refine ⟨hcontent, rfl, hcomponent, hspelled, hfits, hpointer, rfl, ?_⟩
  exact ((typeOf_component _ hcontent slashed rfl "a/b~c" slashedSchema hcomponent hspelled hfits
    true ⟨slashedPointer, []⟩ hpointer .fresh .fresh (faithful_fresh _) (faithful_fresh _)).2 _ _
    rfl rfl).1

/-- The key that has the octets of a name. -/
def octetsKey : Key := .octets [80, 101, 116]

/-- A schema of texts. -/
def textSchema : Node :=
  .schema ⟨none, none, some (.one "string"), none, none, none, none, none⟩ none none none none
    none []

/-- The description with this schema under that key. -/
def spelledByOctets : Document :=
  oneSchemaDocument octetsKey (.map [(.str "type", .str "string")]) "Pet" textSchema

/-- A component whose name is given by its octets has a type, and the reference to it has none. -/
theorem typeOf_component_octets :
    (Value.map spelledByOctets.raw).WellFormed 0 ∧
      Document.model.read (.map spelledByOctets.raw) = .valid spelledByOctets ∧
      Component spelledByOctets "Pet" textSchema ∧
      ¬ ((∃ u, (typeOf spelledByOctets.raw true
            (.reference ⟨componentPointer "Pet", []⟩) .fresh).1 = .ok u) ↔
          ∃ t, (typeOf spelledByOctets.raw true textSchema .fresh).1 = .ok t) := by
  have hcontent : (Value.map spelledByOctets.raw).WellFormed 0 := by
    simp [spelledByOctets, oneSchemaDocument, oneSchema, Value.WellFormed, Fields.KeysDistinct,
      WellFormedFields, WellFormedField]
  have hpointer : componentPointer "Pet" = "#/components/schemas/Pet" := by decide
  refine ⟨hcontent, rfl, ⟨_, _, rfl, rfl, rfl⟩, fun h => ?_⟩
  obtain ⟨u, hu⟩ := h.mpr ⟨.string, rfl⟩
  rw [hpointer] at hu
  have herror : (typeOf spelledByOctets.raw true
      (.reference ⟨"#/components/schemas/Pet", []⟩) .fresh).1
        = .error (.reference "#/components/schemas/Pet"
            (some (.noSuchPlace "#/components/schemas/Pet"))) := rfl
  cases hu.symm.trans herror

end ServerActions.Reference
