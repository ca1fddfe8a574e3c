import Mathlib.Data.List.Forall2
import ServerActions.Proofs.Reference.Layer
import ServerActions.Proofs.Value.WellFormed

/-!
# Where the references of a schema come from

Reading a schema from a value drops keywords of the wrong kind and follows nothing, so every
reference of the node is a text under the key of references somewhere in the value.  A value that a
pointer leads to is a part of the description, and therefore following references never brings up a
text that the description does not hold.  A part that holds the whole once more adds nothing: what
it refers to was in the whole already.

## Main results

* `refsIn_of_contains` — the texts in the parts of a value are texts of it.
* `read_of_mem_keywordNodes` — a node under a keyword was read from a part of the mapping.
* `target_eq_ok` — a pointer leads to a schema if the mapping at its end describes one.
* `contains_of_target` — a pointer leads to a part of the description.
* `nodeRefs_of_read` — the references of a node are texts of the value it was read from.
* `nodeRefs_of_target` — the references of a schema that a pointer leads to are texts of the
  description.
-/

namespace ServerActions.Reference

open Description (Node NodeReader referenceKey readAll keyword? itemsOf propertiesOf
  propertyEntries nodesOf)
open Relation (ReflTransGen)

/-! ### Members -/

theorem mem_refsInFields {x : String} {fs : List (Key × Value)} :
    x ∈ refsInFields fs ↔
      ∃ e ∈ fs, (e.1 = .str referenceKey ∧ e.2.toText = .valid x) ∨ x ∈ refsIn e.2 := by
  induction fs with
  | nil => simp [refsInFields]
  | cons f fs ih =>
    obtain ⟨k, v⟩ := f
    simp only [refsInFields, List.mem_append, ih, List.mem_cons, exists_eq_or_imp]
    refine or_congr_left (or_congr_left ?_)
    by_cases hk : k = .str referenceKey <;> simp [hk]

theorem mem_refsInItems {x : String} {vs : List Value} :
    x ∈ refsInItems vs ↔ ∃ v ∈ vs, x ∈ refsIn v := by
  induction vs with
  | nil => simp [refsInItems]
  | cons v vs ih => simp only [refsInItems, List.mem_append, ih, List.mem_cons, exists_eq_or_imp]

/-! ### Parts of values -/

section

variable {whole : Value} {x : String}

/-- A text stays the text it is when the whole, which is none, is put into it. -/
theorem toText_of_settled (hw : ∀ y, whole.toText ≠ .valid y) {depth : Nat} {v : Value}
    (h : (Value.settled whole depth v).toText = .valid x) : v.toText = .valid x := by
  cases v with
  | again level =>
    rw [Value.settled] at h
    split at h
    · exact absurd h (hw x)
    · exact h
  | list items => simp [Value.settled, Value.toText] at h
  | map fields => simp [Value.settled, Value.toText] at h
  | pair k v => simp [Value.settled, Value.toText] at h
  | _ => exact h

mutual
theorem refsIn_settled (hw : ∀ y, whole.toText ≠ .valid y) : ∀ (depth : Nat) (v : Value),
    x ∈ refsIn (Value.settled whole depth v) → x ∈ refsIn v ∨ x ∈ refsIn whole
  | depth, .again level, h => by
    rw [Value.settled] at h
    split at h
    · exact Or.inr h
    · exact Or.inl h
  | depth, .list items, h => by
    rw [Value.settled, refsIn] at h
    rw [refsIn]
    exact refsInItems_settled hw (depth + 1) items h
  | depth, .map fields, h => by
    rw [Value.settled, refsIn] at h
    rw [refsIn]
    exact refsInFields_settled hw (depth + 1) fields h
  | _, .pair k v, h => by simp [Value.settled, refsIn] at h
  | _, .null, h | _, .bool _, h | _, .int _, h | _, .float _, h | _, .moment _, h | _, .str _, h
  | _, .octets _, h | _, .set _, h => by simp [Value.settled, refsIn] at h
termination_by structural _ v => v

theorem refsInItems_settled (hw : ∀ y, whole.toText ≠ .valid y) :
    ∀ (depth : Nat) (vs : List Value),
      x ∈ refsInItems (settledItems whole depth vs) → x ∈ refsInItems vs ∨ x ∈ refsIn whole
  | _, [], h => by simp [settledItems, refsInItems] at h
  | depth, v :: vs, h => by
    rw [settledItems, refsInItems, List.mem_append] at h
    rw [refsInItems, List.mem_append]
    rcases h with h | h
    · exact (refsIn_settled hw depth v h).imp_left Or.inl
    · exact (refsInItems_settled hw depth vs h).imp_left Or.inr
termination_by structural _ vs => vs

theorem refsInFields_settled (hw : ∀ y, whole.toText ≠ .valid y) :
    ∀ (depth : Nat) (fs : List (Key × Value)),
      x ∈ refsInFields (settledFields whole depth fs) → x ∈ refsInFields fs ∨ x ∈ refsIn whole
  | _, [], h => by simp [settledFields, refsInFields] at h
  | depth, (k, v) :: fs, h => by
    rw [settledFields, settledField, refsInFields, List.mem_append, List.mem_append] at h
    rw [refsInFields, List.mem_append, List.mem_append]
    rcases h with (h | h) | h
    · refine Or.inl (Or.inl (Or.inl ?_))
      split at h
      · simp only [Option.mem_toList, Checked.toOption_eq_some] at h
        rw [if_pos ‹_›]
        simpa using toText_of_settled hw h
      · simp at h
    · exact (refsIn_settled hw depth v h).imp_left fun h => Or.inl (Or.inr h)
    · exact (refsInFields_settled hw depth fs h).imp_left Or.inr
termination_by structural _ fs => fs
end

/-- The texts in the entries of a mapping are texts of it. -/
theorem refsInFields_of_fields? {v : Value} {fs : Fields} (h : v.fields? = some fs)
    (hx : x ∈ refsInFields fs) : x ∈ refsIn v := by
  cases v with
  | map fields =>
    obtain rfl := Option.some.inj h
    obtain ⟨e, he, hx⟩ := mem_refsInFields.mp hx
    obtain ⟨f, hf, rfl⟩ := List.mem_map.mp he
    have hw : ∀ y, (Value.map fields).toText ≠ .valid y := by simp [Value.toText]
    -- Settling puts the mapping itself where it came again, so a text is of an entry or of it.
    rcases hx with ⟨hk, ht⟩ | hx
    · exact mem_refsInFields.mpr ⟨f, hf, Or.inl ⟨hk, toText_of_settled hw ht⟩⟩
    · rcases refsIn_settled hw 0 f.2 hx with h | h
      · exact mem_refsInFields.mpr ⟨f, hf, Or.inr h⟩
      · exact h
  | _ => simp [Value.fields?] at h

/-- The texts in the items of a list or a set are texts of it; a set holds no mappings. -/
theorem refsIn_of_items? {v w : Value} {vs : List Value} (h : v.items? = some vs)
    (hw : w ∈ vs) (hx : x ∈ refsIn w) : x ∈ refsIn v := by
  cases v with
  | list items =>
    obtain rfl := Option.some.inj h
    obtain ⟨u, hu, rfl⟩ := List.mem_map.mp hw
    have hwhole : ∀ y, (Value.list items).toText ≠ .valid y := by simp [Value.toText]
    rcases refsIn_settled hwhole 0 u hx with h | h
    · exact mem_refsInItems.mpr ⟨u, hu, h⟩
    · exact h
  | set members =>
    obtain rfl := Option.some.inj h
    obtain ⟨k, -, rfl⟩ := List.mem_map.mp hw
    cases k <;> simp [Key.toValue, refsIn] at hx
  | _ => simp [Value.items?] at h

/-- The texts in an entry are texts of the mapping. -/
theorem refsInFields_of_mem {fs : Fields} {k : Key} {v : Value} (h : (k, v) ∈ fs)
    (hx : x ∈ refsIn v) : x ∈ refsInFields fs :=
  mem_refsInFields.mpr ⟨(k, v), h, Or.inr hx⟩

/-- The texts in the parts of a value are texts of it. -/
theorem refsIn_of_contains {v w : Value} (h : ReflTransGen Contains v w) (hx : x ∈ refsIn w) :
    x ∈ refsIn v := by
  induction h with
  | refl => exact hx
  | tail _ hstep ih =>
    cases hstep with
    | item hvs hw => exact ih (refsIn_of_items? hvs hw hx)
    | entry hfs hw => exact ih (refsInFields_of_fields? hfs (refsInFields_of_mem hw hx))

end

/-! ### Reading nodes -/

/-- A member on the left of a relation of lists is related to one on the right. -/
theorem exists_of_forall₂ {α β : Type} {R : α → β → Prop} {as : List α} {bs : List β}
    (h : List.Forall₂ R as bs) {a : α} (ha : a ∈ as) : ∃ b ∈ bs, R a b := by
  induction h with
  | nil => cases ha
  | cons hab _ ih =>
    rcases List.mem_cons.mp ha with rfl | ha
    · exact ⟨_, List.mem_cons_self .., hab⟩
    · obtain ⟨b, hb, hR⟩ := ih ha
      exact ⟨b, List.mem_cons_of_mem _ hb, hR⟩

section

variable {read : NodeReader} {fs : Fields}

/-- A reference is read if its target and its further entries are. -/
theorem reference_eq_valid {r : Description.Reference} :
    Description.Reference.model.ofFields fs = .valid r ↔
      fs.required referenceKey ["ref"] Value.toText = .valid r.target ∧
        fs.undeclared [[referenceKey, "ref"]] = .valid r.extras := by
  simp only [Description.Reference.model, Fields.ifNamed_seq_eq_valid, Checked.fmap_eq_valid]
  constructor
  · rintro ⟨_, extras, ⟨target, htarget, rfl⟩, hextras, rfl⟩
    exact ⟨htarget, hextras⟩
  · rintro ⟨htarget, hextras⟩
    exact ⟨_, r.extras, ⟨r.target, htarget, rfl⟩, hextras, rfl⟩

/-- A schema is read if its further entries are. -/
theorem schemaWith_eq_valid {n : Node} :
    (Node.schemaWith read).ofFields fs = .valid n ↔
      ∃ extras, fs.undeclared (Description.keywordNames.map ([·])) = .valid extras ∧
        .schema (Description.Keywords.read fs) (itemsOf read fs) (propertiesOf read fs)
          (nodesOf read "allOf" fs) (nodesOf read "oneOf" fs) (nodesOf read "anyOf" fs) extras
            = n :=
  Fields.ifNamed_map_eq_valid

/-- Several values are read one for one. -/
theorem readAll_eq_some_iff {α : Type} {read : Value → Checked α} {vs : List Value} {as : List α} :
    readAll read vs = some as ↔ List.Forall₂ (fun v a => read v = .valid a) vs as := by
  induction vs generalizing as with
  | nil =>
    rw [readAll, List.forall₂_nil_left_iff, Option.some.injEq]
    exact eq_comm
  | cons v vs ih =>
    simp only [readAll, Option.bind_eq_bind, Option.bind_eq_some_iff, Checked.toOption_eq_some,
      Option.pure_def, Option.some.injEq, List.forall₂_cons_left_iff, ih]
    constructor
    · rintro ⟨a, ha, rest, hrest, rfl⟩
      exact ⟨a, rest, ha, hrest, rfl⟩
    · rintro ⟨a, rest, ha, hrest, rfl⟩
      exact ⟨a, ha, rest, hrest, rfl⟩

/-- Each of the values that are read together is read from one of those given. -/
theorem mem_of_readAll {α : Type} {read : Value → Checked α} {vs : List Value} {as : List α}
    (h : readAll read vs = some as) : ∀ a ∈ as, ∃ v ∈ vs, read v = .valid a :=
  fun _ ha => exists_of_forall₂ (readAll_eq_some_iff.mp h).flip ha

theorem keyword?_eq_some {α : Type} {name : String} {read : Value → Checked α} {a : α} :
    keyword? fs name read = some a ↔ ∃ v, fs.get? name = some v ∧ read v = .valid a := by
  simp [keyword?, Option.bind_eq_some_iff]

/-- A value is inside of a mapping with the entries. -/
def InsideOf (fs : Fields) (v : Value) : Prop :=
  ∃ f ∈ fs, ReflTransGen Contains f.2 v

theorem read_of_mem_nodesOf {name : String} {ns : List Node}
    (h : nodesOf read name fs = some ns) {m : Node} (hm : m ∈ ns) :
    ∃ v, read v = .valid m ∧ InsideOf fs v := by
  simp only [nodesOf, Option.bind_eq_bind, Option.bind_eq_some_iff] at h
  obtain ⟨w, hw, vs, hvs, hns⟩ := h
  obtain ⟨v, hv, hread⟩ := mem_of_readAll hns m hm
  exact ⟨v, hread, _, Fields.mem_of_get? hw, .single (.item hvs hv)⟩

/-- An entry that counts as a property stands in the mapping under its name. -/
theorem mem_of_mem_propertyEntries {e : String × Value} (he : e ∈ propertyEntries fs) :
    (Key.str e.1, e.2) ∈ fs := by
  obtain ⟨⟨k, v⟩, hf, hsome⟩ := List.mem_filterMap.mp he
  split at hsome
  · obtain ⟨name, hname, rfl⟩ := Option.map_eq_some_iff.mp hsome
    cases k with
    | str s =>
      cases hname
      exact hf
    | _ => cases hname
  · cases hsome

theorem read_of_mem_propertiesOf {ps : List (String × Node)}
    (h : propertiesOf read fs = some ps) {p : String × Node} (hp : p ∈ ps) :
    ∃ v, read v = .valid p.2 ∧ InsideOf fs v := by
  simp only [propertiesOf, Option.bind_eq_bind, Option.bind_eq_some_iff, Option.pure_def,
    Option.some.injEq] at h
  obtain ⟨w, hw, inner, hinner, ns, hns, rfl⟩ := h
  obtain ⟨v, hv, hread⟩ := mem_of_readAll hns p.2 (List.of_mem_zip hp).2
  obtain ⟨e, he, rfl⟩ := List.mem_map.mp hv
  exact ⟨e.2, hread, _, Fields.mem_of_get? hw,
    .single (.entry hinner (mem_of_mem_propertyEntries he))⟩

/-- A node under a keyword was read from a part of the mapping. -/
theorem read_of_mem_keywordNodes {m : Node}
    (hm : m ∈ keywordNodes (itemsOf read fs) (propertiesOf read fs) (nodesOf read "allOf" fs)
      (nodesOf read "oneOf" fs) (nodesOf read "anyOf" fs)) :
    ∃ v, read v = .valid m ∧ InsideOf fs v := by
  have hnodes : ∀ name, m ∈ (nodesOf read name fs).getD [] →
      ∃ v, read v = .valid m ∧ InsideOf fs v := by
    intro name hm
    cases hns : nodesOf read name fs with
    | none => simp [hns] at hm
    | some ns =>
      rw [hns] at hm
      exact read_of_mem_nodesOf hns hm
  simp only [keywordNodes, List.mem_append] at hm
  rcases hm with (((hm | hm) | hm) | hm) | hm
  · obtain ⟨v, hv, hread⟩ := keyword?_eq_some.mp (Option.mem_toList.mp hm)
    exact ⟨v, hread, _, Fields.mem_of_get? hv, .refl⟩
  · obtain ⟨p, hp, rfl⟩ := List.mem_map.mp hm
    cases hps : propertiesOf read fs with
    | none => simp [hps] at hp
    | some ps =>
      rw [hps] at hp
      exact read_of_mem_propertiesOf hps hp
  · exact hnodes "allOf" hm
  · exact hnodes "oneOf" hm
  · exact hnodes "anyOf" hm

/-- The target of a reference that was read is the text under its key. -/
theorem target_of_read {r : Description.Reference} (href : fs.has referenceKey = true)
    (h : Description.Reference.model.ofFields fs = .valid r) : r.target ∈ refsInFields fs := by
  obtain ⟨v, hv⟩ := Option.isSome_iff_exists.mp href
  obtain ⟨htarget, -⟩ := reference_eq_valid.mp h
  simp only [Fields.required, Fields.lookup, hv, Checked.under_eq_valid] at htarget
  exact mem_refsInFields.mpr
    ⟨(.str referenceKey, v), Fields.mem_of_get? hv, Or.inl ⟨rfl, htarget⟩⟩

end

theorem nodeRefs_of_readWithin (levels : Nat) : ∀ (around : List Value) (v : Value) (n : Node),
    Node.readWithin levels around v = .valid n → ∀ x ∈ nodeRefs n, x ∈ refsIn v := by
  induction levels with
  | zero => intro around v n h; simp [Node.readWithin] at h
  | succ levels ih =>
    intro around v n h x hx
    rw [Node.readWithin] at h
    split_ifs at h with hsame href
    · simp at h
    · simp only [Checked.under_eq_valid, Checked.map_eq_valid, Model.read_eq_valid] at h
      obtain ⟨r, ⟨fs, hfs, hr⟩, rfl⟩ := h
      rw [hfs, Option.getD_some] at href
      rw [nodeRefs, List.mem_singleton] at hx
      rw [hx]
      exact refsInFields_of_fields? hfs (target_of_read href hr)
    · simp only [Checked.under_eq_valid, Model.read_eq_valid, schemaWith_eq_valid] at h
      obtain ⟨fs, hfs, extras, -, rfl⟩ := h
      rw [nodeRefs_schema] at hx
      obtain ⟨m, hm, hx⟩ := List.mem_flatMap.mp hx
      obtain ⟨w, hw, f, hf, hinside⟩ := read_of_mem_keywordNodes hm
      exact refsIn_of_contains (.head (.entry hfs hf) hinside) (ih _ w m hw x hx)

/-- **The references of a node are texts of the value it was read from.** -/
theorem nodeRefs_of_read {v : Value} {n : Node} (h : Node.read v = .valid n) {x : String}
    (hx : x ∈ nodeRefs n) : x ∈ refsIn v :=
  nodeRefs_of_readWithin _ _ v n h x hx

/-! ### Following pointers -/

/-- A text begins as a text that it begins with. -/
theorem head?_of_startsWith {start text : String} {c : Char} (h : startsWith start text = true)
    (hc : start.toList.head? = some c) : text.toList.head? = some c := by
  obtain ⟨rest, hrest⟩ := List.isPrefixOf_iff_prefix.mp h
  rw [← hrest, List.head?_append, hc, Option.some_or]

/-- A pointer that starts at the root is walked from there. -/
theorem resolve_of_local {root : Fields} {ref : String} (h : startsWith "#/" ref = true) :
    resolve root ref = walk ref "#" (.map root) (steps (ref.toList.drop 2)) := by
  have hhash : ref.toList.head? = some '#' := head?_of_startsWith h (by decide)
  have hexternal : ∀ start : String, start.toList.head? = some 'h' → startsWith start ref = false :=
    fun start hstart => Bool.eq_false_iff.mpr fun hs => by
      rw [head?_of_startsWith hs hstart] at hhash
      cases hhash
  simp [resolve, h, hexternal "http://" (by decide), hexternal "https://" (by decide)]

/-- A step leads to a part of the value. -/
theorem contains_of_stepInto {step : String} {v w : Value} (h : stepInto step v = .ok (some w)) :
    Contains v w := by
  unfold stepInto at h
  split at h
  · next fs hfs =>
    split at h
    · next inner hinner =>
      cases h
      exact .entry hfs (Fields.mem_of_get? hinner)
    · cases hi : indexOf? step with
      | error e => rw [hi] at h; cases h
      | ok n? =>
        rw [hi] at h
        obtain ⟨n, -, hfind⟩ := Option.bind_eq_some_iff.mp (Except.ok.inj h)
        obtain ⟨k, -, hk⟩ := Fields.mem_of_find? hfind
        exact .entry hfs hk
  · next vs hnone hvs =>
    have hitems : v.items? = some vs := by
      cases v with
      | list items => exact hvs
      | _ => cases hvs
    cases hi : indexOf? step with
    | error e => rw [hi] at h; cases h
    | ok n? =>
      rw [hi] at h
      obtain ⟨n, -, hget⟩ := Option.bind_eq_some_iff.mp (Except.ok.inj h)
      exact .item hitems (List.mem_of_getElem? hget)
  · cases h

/-- Steps lead to a part of the value. -/
theorem contains_of_walk {ref : String} (steps : List String) :
    ∀ {walked : String} {v w : Value}, walk ref walked v steps = .ok w →
      ReflTransGen Contains v w := by
  induction steps with
  | nil =>
    intro walked v w h
    cases h
    exact .refl
  | cons step steps ih =>
    intro walked v w h
    rw [walk] at h
    split at h
    · cases h
    · cases h
    · next inner hinner => exact .head (contains_of_stepInto hinner) (ih h)

/-- A pointer leads to a part of the description. -/
theorem contains_of_resolve {root : Fields} {ref : String} {v : Value}
    (h : resolve root ref = .ok v) : ReflTransGen Contains (.map root) v := by
  unfold resolve at h
  split_ifs at h
  exact contains_of_walk _ h

theorem target_eq (root : Fields) (ref : String) :
    target root ref = match resolve root ref with
      | .error e => .error e
      | .ok v =>
        if v.isMapping then
          match Node.read v with
          | .valid n => .ok n
          | .invalid fs => .error (.reference ref (some (.invalidSchema fs)))
        else .error (.reference ref (some .notSchema)) := by
  unfold target
  cases resolve root ref with
  | error e => rfl
  | ok v =>
    have hbind : ∀ f : Value → Except Failure Node, (Except.ok v >>= f) = f v := fun _ => rfl
    rw [hbind]
    dsimp only
    cases v.isMapping with
    | false => rfl
    | true =>
      cases Node.read v with
      | valid n => rfl
      | invalid fs => rfl

/-- A pointer leads to a schema if the mapping at its end describes one. -/
theorem target_eq_ok {root : Fields} {ref : String} {n : Node} :
    target root ref = .ok n ↔
      ∃ v, resolve root ref = .ok v ∧ v.isMapping = true ∧ Node.read v = .valid n := by
  rw [target_eq]
  constructor
  · intro h
    split at h
    · cases h
    · next v hv =>
      split_ifs at h with hmap
      split at h
      · next m hread =>
        cases h
        exact ⟨v, hv, hmap, hread⟩
      · cases h
  · rintro ⟨v, hv, hmap, hread⟩
    rw [hv]
    simp only [hmap, hread, if_true]

/-- **A schema that a pointer leads to was read from a part of the description.** -/
theorem contains_of_target {root : Fields} {ref : String} {n : Node}
    (h : target root ref = .ok n) :
    ∃ v, ReflTransGen Contains (.map root) v ∧ Node.read v = .valid n := by
  obtain ⟨v, hv, -, hread⟩ := target_eq_ok.mp h
  exact ⟨v, contains_of_resolve hv, hread⟩

/-- **The references of a schema that a pointer leads to are texts of the description.** -/
theorem nodeRefs_of_target {root : Fields} {ref : String} {n : Node}
    (h : target root ref = .ok n) {x : String} (hx : x ∈ nodeRefs n) : x ∈ refsInFields root := by
  obtain ⟨v, hv, hread⟩ := contains_of_target h
  exact refsIn_of_contains hv (nodeRefs_of_read hread hx)

end ServerActions.Reference
