import Mathlib.Order.FixedPoints
import ServerActions.Proofs.Reference.Reachability

/-!
# Types have the values that conform

A value conforms to a schema when it satisfies the keywords that the synthesis reads, and to a
reference when it conforms to the target.  References may lead back to themselves, so this is no
definition but a condition on a relation, and there may be several that meet it; what follows holds
of each of them.

A value that conforms to a node belongs to its type.  The converse fails where the type says less
than the schema: within a cycle, where several keywords ask something of a value but only one is
looked at, and where a property is required that is not declared.  It holds if there is nothing of
the kind.

## Main definitions

* `Satisfies`, `IsConformance` — a value satisfies the keywords of a schema, and a relation is one
  of conformance.
* `Exact` — the type of a schema says all that its keywords ask.

## Main results

* `isConformance_leastConformance` — there is a relation of conformance for every description.
* `conforms_iff_belongs` — the values that conform belong to the type, and are all of them where
  nothing is left out.
-/

namespace ServerActions.Reference

open Description (Node Keywords Extras referenceKey)
open TypeScript
open Relation (ReflTransGen)

/-! ### Conformance -/

/-- A relation between nodes and values. -/
abbrev Conformance := Node → Datum → Prop

/-- A value satisfies the keyword `type`, with those that are read along with it: the elements of a
list conform to `items`, the properties of an object to those declared, and the required ones are
there.  A type that is absent, given as a list or not known asks nothing. -/
def SatisfiesType (R : Conformance) (k : Keywords) (items : Option Node)
    (properties : Option (List (String × Node))) (v : Datum) : Prop :=
  ∀ name, k.type = some (.one name) →
    (name = "string" → ∃ s, v = .str s) ∧
    (name = "integer" ∨ name = "number" → ∃ q, v = .number q) ∧
    (name = "boolean" → ∃ b, v = .bool b) ∧
    (name = "array" → ∃ vs, v = .list vs ∧ ∀ n ∈ items, ∀ w ∈ vs, R n w) ∧
    (name = "object" → ∃ fs, v = .map fs ∧
      (∀ p ∈ properties.getD [], ∀ w, fs.lookup p.1 = some w → R p.2 w) ∧
      ∀ x ∈ k.required.getD [], (fs.lookup x).isSome)

/-- A value satisfies the keywords of a schema; the compositions count only with `compositions`, and
those without members ask nothing. -/
structure Satisfies (R : Conformance) (compositions : Bool) (k : Keywords) (items : Option Node)
    (properties : Option (List (String × Node))) (allOf oneOf anyOf : Option (List Node))
    (v : Datum) : Prop where
  type : SatisfiesType R k items properties v
  allOf : compositions = true → ∀ m ∈ allOf.getD [], R m v
  oneOf : compositions = true → oneOf.getD [] ≠ [] → ∃ m ∈ oneOf.getD [], R m v
  anyOf : compositions = true → anyOf.getD [] ≠ [] → ∃ m ∈ anyOf.getD [], R m v

/-- A value conforms to a node, when `R` is the conformance to the nodes inside and behind it. -/
def ConformsWith (find : Finder) (compositions : Bool) (R : Conformance) : Conformance
  | .reference r, v => ∃ m, find r.target = .ok m ∧ R m v
  | .schema k items properties allOf oneOf anyOf _, v =>
    Satisfies R compositions k items properties allOf oneOf anyOf v

/-- A relation of conformance. -/
def IsConformance (find : Finder) (compositions : Bool) (R : Conformance) : Prop :=
  ∀ n v, R n v ↔ ConformsWith find compositions R n v

section

variable {find : Finder} {compositions : Bool} {R R' : Conformance}

theorem conformsWith_mono (h : R ≤ R') :
    ConformsWith find compositions R ≤ ConformsWith find compositions R' := by
  intro n v hv
  cases n with
  | reference r =>
    obtain ⟨m, hm, hv⟩ := hv
    exact ⟨m, hm, h m v hv⟩
  | schema k items properties allOf oneOf anyOf extras =>
    have hsome : ∀ ms : List Node, (∃ m ∈ ms, R m v) → ∃ m ∈ ms, R' m v :=
      fun ms ⟨m, hm, hmv⟩ => ⟨m, hm, h m v hmv⟩
    refine ⟨fun name hname => ?_, fun hc m hm => h m v (hv.allOf hc m hm),
      fun hc hne => hsome _ (hv.oneOf hc hne), fun hc hne => hsome _ (hv.anyOf hc hne)⟩
    obtain ⟨hstring, hnumber, hboolean, harray, hobject⟩ := hv.type name hname
    refine ⟨hstring, hnumber, hboolean, fun ha => ?_, fun ho => ?_⟩
    · obtain ⟨vs, hvs, hitems⟩ := harray ha
      exact ⟨vs, hvs, fun n hn w hw => h n w (hitems n hn w hw)⟩
    · obtain ⟨fs, hfs, hproperties, hrequired⟩ := hobject ho
      exact ⟨fs, hfs, fun p hp w hw => h p.2 w (hproperties p hp w hw), hrequired⟩

variable (find compositions)

/-- The relation of conformance with the fewest values. -/
def leastConformance : Conformance :=
  OrderHom.lfp ⟨ConformsWith find compositions, fun _ _ => conformsWith_mono⟩

/-- **There is a relation of conformance**, whatever cycles the references form. -/
theorem isConformance_leastConformance :
    IsConformance find compositions (leastConformance find compositions) := by
  intro n v
  have hfix := OrderHom.map_lfp (α := Conformance)
    ⟨ConformsWith find compositions, fun _ _ => conformsWith_mono⟩
  exact iff_of_eq (congrFun (congrFun hfix n) v).symm

end

/-! ### What a layer says of a value -/

/-- What is looked at in a schema holds of a value. -/
def Layer.Holds (R : Conformance) : Layer → Datum → Prop
  | .leaf t, v => Belongs v t
  | .array n, v => ∃ vs, v = .list vs ∧ ∀ w ∈ vs, R n w
  | .record required ps, v => ∃ fs, v = .map fs ∧ ∀ p ∈ ps,
      (∀ w, fs.lookup p.1 = some w → R p.2 w) ∧ (p.1 ∈ required → (fs.lookup p.1).isSome)
  | .union ms, v => ∃ m ∈ ms, R m v
  | .inter ms, v => ∀ m ∈ ms, R m v

section

variable {R : Conformance} {l : Layer} {ts : List TypeExpr} {v : Datum}

/-- The values of a record put together. -/
theorem belongs_zipWith_member {required : List String} {ps : List (String × Node)} :
    Belongs v (.record (List.zipWith (member required) ps ts)) ↔
      ∃ fs, v = .map fs ∧ ∀ q ∈ ps.zip ts, (∀ w, fs.lookup q.1.1 = some w → Belongs w q.2) ∧
        (q.1.1 ∈ required → (fs.lookup q.1.1).isSome) := by
  have hzip : List.zipWith (member required) ps ts
      = (ps.zip ts).map fun q => member required q.1 q.2 := by
    rw [List.map_zip_eq_zipWith]
    rfl
  rw [belongs_record, hzip]
  refine exists_congr fun fs => and_congr_right fun _ => List.forall_mem_map.trans ?_
  simp only [member, Bool.not_eq_false', List.contains_iff_mem]

theorem belongs_composed_union : Belongs v (composed .union ts) ↔ ∃ t ∈ ts, Belongs v t := by
  unfold composed
  split
  · simp
  · exact belongs_union

theorem belongs_composed_inter : Belongs v (composed .inter ts) ↔ ∀ t ∈ ts, Belongs v t := by
  unfold composed
  split
  · simp
  · exact belongs_inter

/-- A pair of a property and its type is a pair of its node and that type. -/
theorem mem_zip_map_snd {ps : List (String × Node)} {q : (String × Node) × TypeExpr}
    (hq : q ∈ ps.zip ts) : (q.1.2, q.2) ∈ (ps.map Prod.snd).zip ts := by
  rw [List.zip_map_left]
  exact List.mem_map_of_mem (f := Prod.map Prod.snd id) hq

/-- What is looked at holds of a value that belongs to the type, if the parts hold of those that
belong to theirs. -/
theorem Layer.Holds.of_belongs (hlen : l.parts.length = ts.length)
    (hparts : ∀ q ∈ l.parts.zip ts, ∀ v, Belongs v q.2 → R q.1 v)
    (h : Belongs v (l.assemble ts)) : l.Holds R v := by
  cases l with
  | leaf t => exact h
  | array n =>
    obtain ⟨t, rfl⟩ := List.length_eq_one_iff.mp hlen.symm
    obtain ⟨vs, rfl, hvs⟩ := belongs_array.mp h
    exact ⟨vs, rfl, fun w hw => hparts (n, t) (List.mem_singleton_self _) w (hvs w hw)⟩
  | record required ps =>
    obtain ⟨fs, rfl, hfs⟩ := belongs_zipWith_member.mp h
    rw [Layer.parts, List.length_map] at hlen
    refine ⟨fs, rfl, fun p hp => ?_⟩
    obtain ⟨t, ht⟩ := exists_zip_left hlen hp
    refine ⟨fun w hw => ?_, (hfs (p, t) ht).2⟩
    exact hparts (p.2, t) (mem_zip_map_snd ht) w ((hfs (p, t) ht).1 w hw)
  | union ms =>
    obtain ⟨t, ht, hv⟩ := belongs_composed_union.mp h
    obtain ⟨m, hm⟩ := exists_zip_right hlen ht
    exact ⟨m, (List.of_mem_zip hm).1, hparts (m, t) hm v hv⟩
  | inter ms =>
    intro m hm
    obtain ⟨t, ht⟩ := exists_zip_left hlen hm
    exact hparts (m, t) ht v (belongs_composed_inter.mp h t (List.of_mem_zip ht).2)

/-- A value of which that holds which is looked at belongs to the type, if those of which the parts
hold belong to theirs. -/
theorem Layer.Holds.belongs (hlen : l.parts.length = ts.length)
    (hparts : ∀ q ∈ l.parts.zip ts, ∀ v, R q.1 v → Belongs v q.2) (h : l.Holds R v) :
    Belongs v (l.assemble ts) := by
  cases l with
  | leaf t => exact h
  | array n =>
    obtain ⟨t, rfl⟩ := List.length_eq_one_iff.mp hlen.symm
    obtain ⟨vs, rfl, hvs⟩ := h
    exact .array fun w hw => hparts (n, t) (List.mem_singleton_self _) w (hvs w hw)
  | record required ps =>
    obtain ⟨fs, rfl, hfs⟩ := h
    refine belongs_zipWith_member.mpr ⟨fs, rfl, fun q hq => ?_⟩
    obtain ⟨hvalue, hreq⟩ := hfs q.1 (List.of_mem_zip hq).1
    exact ⟨fun w hw => hparts (q.1.2, q.2) (mem_zip_map_snd hq) w (hvalue w hw), hreq⟩
  | union ms =>
    obtain ⟨m, hm, hv⟩ := h
    obtain ⟨t, ht⟩ := exists_zip_left hlen hm
    exact belongs_composed_union.mpr ⟨t, (List.of_mem_zip ht).2, hparts (m, t) ht v hv⟩
  | inter ms =>
    refine belongs_composed_inter.mpr fun t ht => ?_
    obtain ⟨m, hm⟩ := exists_zip_right hlen ht
    exact hparts (m, t) hm v (h m (List.of_mem_zip hm).1)

end

/-! ### What a schema says of a value -/

/-- Whether the keyword `type` asks anything of a value. -/
def asksType (k : Keywords) : Bool :=
  match k.type with
  | some (.one name) =>
    ["string", "integer", "number", "boolean", "array", "object"].contains name
  | _ => false

/-- The type of a schema says all that its keywords ask: no two of the compositions and the keyword
`type` ask anything of a value, and the properties required of an object are declared. -/
def Exact (compositions : Bool) : Node → Prop
  | .reference _ => True
  | .schema k _ properties allOf oneOf anyOf _ =>
    (compositions = true → [oneOf.getD [] ≠ [], anyOf.getD [] ≠ [], allOf.getD [] ≠ [],
      asksType k = true].Pairwise fun p q => ¬ (p ∧ q)) ∧
    (k.type = some (.one "object") →
      ∀ x ∈ k.required.getD [], x ∈ (properties.getD []).map Prod.fst)

section

variable {R : Conformance} {k : Keywords} {items : Option Node}
  {properties : Option (List (String × Node))} {allOf oneOf anyOf : Option (List Node)} {v : Datum}

/-- The required properties are there, where the value is to be an object. -/
def HasRequired (k : Keywords) (v : Datum) : Prop :=
  k.type = some (.one "object") →
    ∃ fs, v = .map fs ∧ ∀ x ∈ k.required.getD [], (fs.lookup x).isSome

theorem belongs_scalarType {name : String} : Belongs v (scalarType name) ↔
    (name = "string" → ∃ s, v = .str s) ∧
    (name = "integer" ∨ name = "number" → ∃ q, v = .number q) ∧
    (name = "boolean" → ∃ b, v = .bool b) := by
  unfold scalarType
  split_ifs with hs hn hb
  · subst hs
    simp [belongs_string]
  · rcases hn with rfl | rfl <;> simp [belongs_number]
  · subst hb
    simp [belongs_boolean]
  · simp [hs, hn, hb]

/-- An object has what is asked of its properties if that holds of it which is looked at, and if the
required ones are there. -/
theorem satisfiesObject_iff {required : List String} :
    (∃ fs, v = .map fs ∧ (∀ p ∈ properties.getD [], ∀ w, fs.lookup p.1 = some w → R p.2 w) ∧
        ∀ x ∈ required, (fs.lookup x).isSome) ↔
      (properties.elim (Layer.leaf (.map .any)) (.record required)).Holds R v ∧
        ∃ fs, v = .map fs ∧ ∀ x ∈ required, (fs.lookup x).isSome := by
  constructor
  · rintro ⟨fs, rfl, hproperties, hrequired⟩
    refine ⟨?_, fs, rfl, hrequired⟩
    cases properties with
    | none => exact Belongs.map fun _ _ => belongs_any
    | some ps => exact ⟨fs, rfl, fun p hp => ⟨hproperties p hp, hrequired p.1⟩⟩
  · rintro ⟨hholds, fs, rfl, hrequired⟩
    refine ⟨fs, rfl, ?_, hrequired⟩
    cases properties with
    | none => simp
    | some ps =>
      obtain ⟨fs', heq, hps⟩ := hholds
      cases heq
      exact fun p hp => (hps p hp).1

/-- **The keyword `type` asks what is looked at for it**, and that the required properties are
there. -/
theorem satisfiesType_iff : SatisfiesType R k items properties v ↔
    (typed k items properties).Holds R v ∧ HasRequired k v := by
  unfold typed SatisfiesType HasRequired
  cases k.type with
  | none => simp [Layer.Holds]
  | some type =>
    cases type with
    | several names => simp [Layer.Holds]
    | one name =>
      -- Only arrays and objects look at more than the name of the type.
      by_cases harray : name = "array"
      · subst harray
        cases items with
        | none => simp [Layer.Holds, belongs_array]
        | some n => simp [Layer.Holds]
      by_cases hobject : name = "object"
      · subst hobject
        simpa using satisfiesObject_iff
      · simp [Layer.Holds, harray, hobject, belongs_scalarType]

theorem satisfiesType_of_not_asks (h : asksType k = false) :
    SatisfiesType R k items properties v := by
  intro name hname
  rw [asksType, hname] at h
  simp only [List.contains_eq_mem, List.mem_cons, List.not_mem_nil, or_false,
    decide_eq_false_iff_not, not_or] at h
  obtain ⟨hs, hi, hn, hb, ha, ho⟩ := h
  exact ⟨fun h => absurd h hs, fun h => absurd h (not_or.mpr ⟨hi, hn⟩), fun h => absurd h hb,
    fun h => absurd h ha, fun h => absurd h ho⟩

/-- Where the required properties are declared, what is looked at says that they are there. -/
theorem hasRequired_of_holds
    (hdeclared : k.type = some (.one "object") →
      ∀ x ∈ k.required.getD [], x ∈ (properties.getD []).map Prod.fst)
    (h : (typed k items properties).Holds R v) : HasRequired k v := by
  intro htype
  have hdeclared := hdeclared htype
  simp only [typed, htype, String.reduceEq, if_false, if_true] at h
  cases properties with
  | none =>
    obtain ⟨fs, rfl, -⟩ := belongs_map.mp h
    exact ⟨fs, rfl, fun x hx => absurd (hdeclared x hx) (by simp)⟩
  | some ps =>
    obtain ⟨fs, rfl, hps⟩ := h
    refine ⟨fs, rfl, fun x hx => ?_⟩
    obtain ⟨p, hp, rfl⟩ := List.mem_map.mp (hdeclared x hx)
    exact (hps p hp).2 hx

/-- What is looked at holds of a value that satisfies the keywords. -/
theorem Satisfies.holds {compositions : Bool}
    (h : Satisfies R compositions k items properties allOf oneOf anyOf v) :
    (layer compositions k items properties allOf oneOf anyOf).Holds R v := by
  -- A composition is looked at only where compositions are asked for; otherwise the type is.
  rcases layer_cases compositions k items properties allOf oneOf anyOf with
    ⟨l, hc, hl, heq⟩ | ⟨-, heq⟩
  · rw [heq]
    rcases composition?_cases allOf oneOf anyOf with
      ⟨_, _, rfl, hl'⟩ | ⟨-, _, _, rfl, hl'⟩ | ⟨-, -, _, _, rfl, hl'⟩ | ⟨-, -, -, hl'⟩
    · cases hl'.symm.trans hl
      exact h.oneOf hc (by simp)
    · cases hl'.symm.trans hl
      exact h.anyOf hc (by simp)
    · cases hl'.symm.trans hl
      exact h.allOf hc
    · cases hl'.symm.trans hl
  · rw [heq]
    exact (satisfiesType_iff.mp h.type).1

/-- A value satisfies the keywords if what is looked at holds of it and says all that they ask. -/
theorem Satisfies.of_holds {compositions : Bool} {extras : Extras}
    (hexact : Exact compositions (.schema k items properties allOf oneOf anyOf extras))
    (h : (layer compositions k items properties allOf oneOf anyOf).Holds R v) :
    Satisfies R compositions k items properties allOf oneOf anyOf v := by
  obtain ⟨hone, hdeclared⟩ := hexact
  rcases layer_cases compositions k items properties allOf oneOf anyOf with
    ⟨l, hc, hl, heq⟩ | ⟨hnone, heq⟩
  · rw [heq] at h
    have hone := hone hc
    simp only [List.pairwise_cons, List.mem_cons, List.not_mem_nil, or_false, forall_eq_or_imp,
      forall_eq, not_and, not_not, Bool.not_eq_true] at hone
    obtain ⟨⟨honeAny, honeAll, honeType⟩, ⟨hanyAll, hanyType⟩, hallType, -⟩ := hone
    -- The composition that is looked at leaves nothing for the keywords after it to ask.
    rcases composition?_cases allOf oneOf anyOf with
      ⟨_, _, rfl, hl'⟩ | ⟨honeOf, _, _, rfl, hl'⟩ | ⟨honeOf, hanyOf, _, _, rfl, hl'⟩ |
        ⟨-, -, -, hl'⟩
    · cases hl'.symm.trans hl
      have hanyOf := honeAny (by simp)
      have hallOf := honeAll (by simp)
      exact ⟨satisfiesType_of_not_asks (honeType (by simp)), by simp [hallOf], fun _ _ => h,
        fun _ hne => absurd hanyOf hne⟩
    · cases hl'.symm.trans hl
      have hallOf := hanyAll (by simp)
      exact ⟨satisfiesType_of_not_asks (hanyType (by simp)), by simp [hallOf],
        fun _ hne => absurd honeOf hne, fun _ _ => h⟩
    · cases hl'.symm.trans hl
      exact ⟨satisfiesType_of_not_asks (hallType (by simp)), fun _ => h,
        fun _ hne => absurd honeOf hne, fun _ hne => absurd hanyOf hne⟩
    · cases hl'.symm.trans hl
  · rw [heq] at h
    have hempty := fun hc => getD_of_composition?_eq_none (hnone hc)
    refine ⟨satisfiesType_iff.mpr ⟨h, hasRequired_of_holds hdeclared h⟩, fun hc => ?_,
      fun hc hne => absurd (hempty hc).1 hne, fun hc hne => absurd (hempty hc).2.1 hne⟩
    simp [(hempty hc).2.2]

end

/-! ### The synthesis -/

section

variable {find : Finder} {compositions : Bool} {following : List String} {R : Conformance}
  {n : Node} {t : TypeExpr}

/-- **The values that conform belong to the type**, whatever references are being followed. -/
theorem Yields.belongs (hR : IsConformance find compositions R)
    (h : Yields find compositions following n t) : ∀ v, R n v → Belongs v t := by
  -- At a reference back into the chain every value belongs, so nothing is asked there.
  induction h with
  | again => exact fun v _ => belongs_circular
  | target _ hm _ ih =>
    intro v hv
    obtain ⟨m, hm', hv⟩ := (hR _ v).mp hv
    obtain rfl := Except.ok.inj (hm.symm.trans hm')
    exact ih v hv
  | @layer _ n l ts hl hlen _ ih =>
    intro v hv
    obtain _ | ⟨k, items, properties, allOf, oneOf, anyOf, extras⟩ := n
    · cases hl
    obtain rfl := Option.some.inj hl
    exact Layer.Holds.belongs hlen ih (Satisfies.holds ((hR _ v).mp hv))

/-- **The values that belong to the type conform**, where every reference is replaced and nothing
that a schema asks is left out. -/
theorem Expands.conforms (hR : IsConformance find compositions R)
    (h : Expands find compositions n t)
    (hexact : ∀ m, ReflTransGen (LooksInto find compositions) n m → Exact compositions m) :
    ∀ v, Belongs v t → R n v := by
  -- Conformance has no induction of its own, but the expansion is a finite tree.
  induction h with
  | target hm _ ih =>
    intro v hv
    have hexact' := fun p hp => hexact p (.head (.target hm) hp)
    exact (hR _ v).mpr ⟨_, hm, ih hexact' v hv⟩
  | @layer n l ts hl hlen _ ih =>
    intro v hv
    have hparts : ∀ q ∈ l.parts.zip ts, ∀ v, Belongs v q.2 → R q.1 v := by
      intro q hq
      have hchild : q.1 ∈ children compositions n :=
        (children_of_layer? hl).symm ▸ (List.of_mem_zip hq).1
      exact ih q hq fun p hp => hexact p (.head (.child hchild) hp)
    obtain _ | ⟨k, items, properties, allOf, oneOf, anyOf, extras⟩ := n
    · cases hl
    obtain rfl := Option.some.inj hl
    exact (hR _ v).mpr (Satisfies.of_holds (hexact _ .refl) (.of_belongs hlen hparts hv))

end

/-- **Types have the values that conform.**  A value that conforms to a node belongs to its type,
and the values that belong to the type are those that conform, if the type has no part that stands
in for a schema within itself and no schema looked into asks more than its type says. -/
theorem conforms_iff_belongs (root : Fields) (compositions : Bool) (n : Node) (s : Session)
    (t : TypeExpr) (ht : (typeOf root compositions n s).1 = .ok t) (R : Conformance)
    (hR : IsConformance (s.find root) compositions R) :
    (∀ v, R n v → Belongs v t) ∧
      (¬ PartOf .circular t →
        (∀ m, ReflTransGen (LooksInto (s.find root) compositions) n m → Exact compositions m) →
        ∀ v, R n v ↔ Belongs v t) := by
  have hyields : Yields (s.find root) compositions [] n t := (outcome_typeOf s n _).mp ht
  refine ⟨hyields.belongs hR, fun hpart hexact v => ?_⟩
  exact ⟨hyields.belongs hR v, (hyields.expands hpart).conforms hR hexact v⟩

/-! ### A list of names -/

/-- The reference to the only schema of `named`. -/
def nameText : String := "#/components/schemas/Name"

/-- A description with a schema for names. -/
def named : Fields :=
  [(.str "components", .map [(.str "schemas", .map [(.str "Name", .map
    [(.str "type", .str "string")])])])]

/-- The schema of `named`. -/
def nameSchema : Node :=
  .schema ⟨none, none, some (.one "string"), none, none, none, none, none⟩ none none none none none
    []

/-- A node for lists of names. -/
def names : Node :=
  .schema ⟨none, none, some (.one "array"), none, none, none, none, none⟩
    (some (.reference ⟨nameText, []⟩)) none none none none []

theorem find_named : Session.fresh.find named nameText = .ok nameSchema :=
  (congrFun (faithful_fresh named) nameText).trans (target_eq_ok.mpr ⟨_, rfl, rfl, rfl⟩)

theorem typeOf_names : (typeOf named true names .fresh).1 = .ok (.array .string) := by
  refine (outcome_typeOf _ _ _).mpr ?_
  have hname : Yields (Session.fresh.find named) true [nameText] nameSchema
      ((Layer.leaf .string).assemble []) := .layer rfl rfl (by simp [Layer.parts])
  have hnames : Yields (Session.fresh.find named) true [] names
      ((Layer.array (.reference ⟨nameText, []⟩)).assemble [.string]) := by
    refine .layer rfl rfl fun q hq => ?_
    obtain rfl := List.mem_singleton.mp hq
    exact .target (by simp) find_named hname
  exact hnames

theorem exact_of_names {m : Node}
    (h : ReflTransGen (LooksInto (Session.fresh.find named) true) names m) : Exact true m := by
  have hthree : m = names ∨ m = .reference ⟨nameText, []⟩ ∨ m = nameSchema := by
    induction h with
    | refl => exact Or.inl rfl
    | tail _ hstep ih =>
      rcases ih with rfl | rfl | rfl
      · cases hstep with
        | child hm => exact Or.inr (Or.inl (List.mem_singleton.mp hm))
      · cases hstep with
        | child hm => cases hm
        | target hm => exact Or.inr (Or.inr (Except.ok.inj (hm.symm.trans find_named)))
      · cases hstep with
        | child hm => cases hm
  rcases hthree with rfl | rfl | rfl
  · simp [Exact, names]
  · trivial
  · simp [Exact, nameSchema]

theorem conforms_iff_belongs_names :
    (typeOf named true names .fresh).1 = .ok (.array .string) ∧
      ∀ v, leastConformance (Session.fresh.find named) true names v
        ↔ Belongs v (.array .string) := by
  refine ⟨typeOf_names, ?_⟩
  refine (conforms_iff_belongs named true names .fresh _ typeOf_names _
    (isConformance_leastConformance _ _)).2 ?_ fun m hm => exact_of_names hm
  simp [TypeExpr.circular, TypeExpr.string, partOf_array, partOf_prim]

end ServerActions.Reference
