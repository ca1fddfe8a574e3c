import Mathlib.Logic.Relation
import ServerActions.Proofs.Checked
import ServerActions.Value.Inside

/-!
# Well-formed values

A value that refers to a list or a mapping around it has to lie in one, and no mapping has a key
twice; every value that is read from a text is such.  The parts of a well-formed value are
well-formed, and there is nothing left in them that refers out of them.

## Main definitions

* `Value.WellFormed` — a value is well-formed inside of a number of lists and mappings.
* `Contains` — a value is directly inside of another.

## Main results

* `Value.settled_eq_self` — a part that refers to nothing around it stays as it is.
* `Value.WellFormed.fields` — the entries of a well-formed mapping are well-formed, under distinct
  keys.
* `Value.WellFormed.of_contains` — what is inside of a well-formed value is well-formed.
* `fields?_map`, `items?_list` — well-formed entries are those of the mapping they make up, and
  well-formed items those of the list.
-/

namespace ServerActions

/-- No key stands in a mapping twice. -/
def Fields.KeysDistinct (fs : Fields) : Prop :=
  (fs.map Prod.fst).Pairwise fun k k' => k.same k' = false

mutual
/-- The value is well-formed inside of `depth` lists and mappings. -/
def Value.WellFormed (depth : Nat) : Value → Prop
  | .again level => level < depth
  | .list items => WellFormedItems (depth + 1) items
  | .pair k v => Value.WellFormed depth k ∧ Value.WellFormed depth v
  | .map fields => Fields.KeysDistinct fields ∧ WellFormedFields (depth + 1) fields
  | _ => True
termination_by structural v => v

/-- The items are well-formed inside of `depth` lists and mappings. -/
def WellFormedItems (depth : Nat) : List Value → Prop
  | [] => True
  | v :: vs => Value.WellFormed depth v ∧ WellFormedItems depth vs
termination_by structural vs => vs

/-- The values of the entries are well-formed inside of `depth` lists and mappings. -/
def WellFormedFields (depth : Nat) : List (Key × Value) → Prop
  | [] => True
  | f :: fs => WellFormedField depth f ∧ WellFormedFields depth fs
termination_by structural fs => fs

/-- The value of the entry is well-formed inside of `depth` lists and mappings. -/
def WellFormedField (depth : Nat) : Key × Value → Prop
  | (_, v) => Value.WellFormed depth v
termination_by structural f => f
end

theorem wellFormedItems_iff {depth : Nat} {vs : List Value} :
    WellFormedItems depth vs ↔ ∀ v ∈ vs, v.WellFormed depth := by
  induction vs with
  | nil => simp [WellFormedItems]
  | cons v vs ih => rw [WellFormedItems, ih, List.forall_mem_cons]

theorem wellFormedFields_iff {depth : Nat} {fs : List (Key × Value)} :
    WellFormedFields depth fs ↔ ∀ f ∈ fs, f.2.WellFormed depth := by
  induction fs with
  | nil => simp [WellFormedFields]
  | cons f fs ih =>
    obtain ⟨k, v⟩ := f
    rw [WellFormedFields, WellFormedField, ih, List.forall_mem_cons]

/-! ### Parts that refer to nothing around them -/

mutual
theorem Value.settled_eq_self (whole : Value) : ∀ {depth : Nat} {v : Value}, v.WellFormed depth →
    Value.settled whole depth v = v
  | depth, .again level, h => by
    have hlt : level < depth := h
    rw [Value.settled, if_neg (Nat.ne_of_lt hlt)]
  | depth, .list items, h => by rw [Value.settled, settledItems_eq_self whole h]
  | depth, .pair k v, h => by
    rw [Value.settled, Value.settled_eq_self whole h.1, Value.settled_eq_self whole h.2]
  | depth, .map fields, h => by rw [Value.settled, settledFields_eq_self whole h.2]
  | _, .null, _ | _, .bool _, _ | _, .int _, _ | _, .float _, _ | _, .moment _, _ | _, .str _, _
  | _, .octets _, _ | _, .set _, _ => rfl
termination_by structural _ v => v

theorem settledItems_eq_self (whole : Value) : ∀ {depth : Nat} {vs : List Value},
    WellFormedItems depth vs → settledItems whole depth vs = vs
  | _, [], _ => rfl
  | _, v :: vs, h => by
    rw [settledItems, Value.settled_eq_self whole h.1, settledItems_eq_self whole h.2]
termination_by structural _ vs => vs

theorem settledFields_eq_self (whole : Value) : ∀ {depth : Nat} {fs : List (Key × Value)},
    WellFormedFields depth fs → settledFields whole depth fs = fs
  | _, [], _ => rfl
  | _, (k, v) :: fs, h => by
    rw [settledFields, settledField, Value.settled_eq_self whole h.1,
      settledFields_eq_self whole h.2]
termination_by structural _ fs => fs
end

mutual
/-- More lists and mappings around a value do no harm. -/
theorem Value.WellFormed.mono : ∀ {depth deeper : Nat} {v : Value}, v.WellFormed depth →
    depth ≤ deeper → v.WellFormed deeper
  | _, _, .again _, h, hle => Nat.lt_of_lt_of_le h hle
  | _, _, .list _, h, hle => WellFormedItems.mono h (Nat.succ_le_succ hle)
  | _, _, .pair _ _, h, hle => ⟨h.1.mono hle, h.2.mono hle⟩
  | _, _, .map _, h, hle => ⟨h.1, WellFormedFields.mono h.2 (Nat.succ_le_succ hle)⟩
  | _, _, .null, _, _ | _, _, .bool _, _, _ | _, _, .int _, _, _ | _, _, .float _, _, _
  | _, _, .moment _, _, _ | _, _, .str _, _, _ | _, _, .octets _, _, _ | _, _, .set _, _, _ =>
    trivial
termination_by structural _ _ v => v

theorem WellFormedItems.mono : ∀ {depth deeper : Nat} {vs : List Value},
    WellFormedItems depth vs → depth ≤ deeper → WellFormedItems deeper vs
  | _, _, [], _, _ => trivial
  | _, _, _ :: _, h, hle => ⟨h.1.mono hle, h.2.mono hle⟩
termination_by structural _ _ vs => vs

theorem WellFormedFields.mono : ∀ {depth deeper : Nat} {fs : List (Key × Value)},
    WellFormedFields depth fs → depth ≤ deeper → WellFormedFields deeper fs
  | _, _, [], _, _ => trivial
  | _, _, (_, _) :: _, h, hle => ⟨Value.WellFormed.mono h.1 hle, h.2.mono hle⟩
termination_by structural _ _ fs => fs
end

theorem settledFields_eq (whole : Value) (depth : Nat) (fs : Fields) :
    settledFields whole depth fs = fs.map fun f => (f.1, Value.settled whole depth f.2) := by
  induction fs with
  | nil => rfl
  | cons f fs ih =>
    obtain ⟨k, v⟩ := f
    rw [settledFields, settledField, ih, List.map_cons]

/-- The keys stay when the whole is put into the values. -/
theorem map_fst_settledFields (whole : Value) (depth : Nat) (fs : List (Key × Value)) :
    (settledFields whole depth fs).map Prod.fst = fs.map Prod.fst := by
  rw [settledFields_eq, List.map_map]
  rfl

mutual
/-- With the whole put into it, a part refers no further out than before. -/
theorem wellFormed_settled {whole : Value} (hwhole : whole.WellFormed 0) :
    ∀ {depth : Nat} {v : Value}, v.WellFormed (depth + 1) →
      (Value.settled whole depth v).WellFormed depth
  | depth, .again level, h => by
    have hlt : level < depth + 1 := h
    rw [Value.settled]
    split
    · exact hwhole.mono (Nat.zero_le _)
    · next hne => exact Nat.lt_of_le_of_ne (Nat.le_of_lt_succ hlt) hne
  | _, .list _, h => wellFormedItems_settled hwhole h
  | _, .pair _ _, h => ⟨wellFormed_settled hwhole h.1, wellFormed_settled hwhole h.2⟩
  | depth, .map fields, h => by
    refine ⟨?_, wellFormedFields_settled hwhole h.2⟩
    rw [Fields.KeysDistinct, map_fst_settledFields]
    exact h.1
  | _, .null, _ | _, .bool _, _ | _, .int _, _ | _, .float _, _ | _, .moment _, _ | _, .str _, _
  | _, .octets _, _ | _, .set _, _ => trivial
termination_by structural _ v => v

theorem wellFormedItems_settled {whole : Value} (hwhole : whole.WellFormed 0) :
    ∀ {depth : Nat} {vs : List Value}, WellFormedItems (depth + 1) vs →
      WellFormedItems depth (settledItems whole depth vs)
  | _, [], _ => trivial
  | _, _ :: _, h => ⟨wellFormed_settled hwhole h.1, wellFormedItems_settled hwhole h.2⟩
termination_by structural _ vs => vs

theorem wellFormedFields_settled {whole : Value} (hwhole : whole.WellFormed 0) :
    ∀ {depth : Nat} {fs : List (Key × Value)}, WellFormedFields (depth + 1) fs →
      WellFormedFields depth (settledFields whole depth fs)
  | _, [], _ => trivial
  | _, (_, _) :: _, h =>
    ⟨wellFormed_settled hwhole h.1, wellFormedFields_settled hwhole h.2⟩
termination_by structural _ fs => fs
end

/-! ### Entries -/

/-- The entries of a well-formed mapping are well-formed, under distinct keys. -/
theorem Value.WellFormed.fields {v : Value} (h : v.WellFormed 0) {fs : Fields}
    (hfs : v.fields? = some fs) : fs.KeysDistinct ∧ ∀ f ∈ fs, f.2.WellFormed 0 := by
  cases v with
  | map fields =>
    obtain rfl := Option.some.inj hfs
    constructor
    · rw [Fields.KeysDistinct, List.map_map]
      exact h.1
    · intro f hf
      obtain ⟨e, he, rfl⟩ := List.mem_map.mp hf
      exact wellFormed_settled h (wellFormedFields_iff.mp h.2 e he)
  | _ => simp [Value.fields?] at hfs

/-- A scalar refers to nothing. -/
theorem wellFormed_toValue (k : Key) (depth : Nat) : k.toValue.WellFormed depth := by
  cases k <;> trivial

/-- The items of a well-formed list or set are well-formed. -/
theorem Value.WellFormed.items {v : Value} (h : v.WellFormed 0) {vs : List Value}
    (hvs : v.items? = some vs) : ∀ w ∈ vs, w.WellFormed 0 := by
  intro w hw
  cases v with
  | list items =>
    obtain rfl := Option.some.inj hvs
    obtain ⟨u, hu, rfl⟩ := List.mem_map.mp hw
    exact wellFormed_settled h (wellFormedItems_iff.mp h u hu)
  | set members =>
    obtain rfl := Option.some.inj hvs
    obtain ⟨k, -, rfl⟩ := List.mem_map.mp hw
    exact wellFormed_toValue k 0
  | _ => simp [Value.items?] at hvs

/-- A value is directly inside of another: an item of a list or a set, or under a key of a
mapping. -/
inductive Contains : Value → Value → Prop
  | item {v w : Value} {vs : List Value} (hvs : v.items? = some vs) (hw : w ∈ vs) : Contains v w
  | entry {v w : Value} {fs : Fields} {k : Key} (hfs : v.fields? = some fs) (hw : (k, w) ∈ fs) :
      Contains v w

/-- What is inside of a well-formed value is well-formed. -/
theorem Value.WellFormed.of_contains {v w : Value} (h : v.WellFormed 0)
    (hw : Relation.ReflTransGen Contains v w) : w.WellFormed 0 := by
  induction hw with
  | refl => exact h
  | tail _ hstep ih =>
    cases hstep with
    | item hvs hw => exact ih.items hvs _ hw
    | entry hfs hw => exact (ih.fields hfs).2 _ hw

/-- Well-formed entries are those of the mapping they make up. -/
theorem fields?_map {fs : Fields} (h : ∀ f ∈ fs, f.2.WellFormed 0) :
    (Value.map fs).fields? = some fs := by
  have heq : (fs.map fun f => (f.1, Value.settled (.map fs) 0 f.2)) = fs.map id :=
    List.map_congr_left fun f hf => by rw [Value.settled_eq_self _ (h f hf), id]
  rw [Value.fields?, heq, List.map_id]

/-- Well-formed entries under distinct keys make up a well-formed mapping. -/
theorem wellFormed_map {fs : Fields} (hkeys : fs.KeysDistinct) (h : ∀ f ∈ fs, f.2.WellFormed 0) :
    (Value.map fs).WellFormed 0 :=
  ⟨hkeys, wellFormedFields_iff.mpr fun f hf => (h f hf).mono (Nat.zero_le 1)⟩

/-- Well-formed items make up a well-formed list. -/
theorem wellFormed_list {vs : List Value} (h : ∀ v ∈ vs, v.WellFormed 0) :
    (Value.list vs).WellFormed 0 :=
  wellFormedItems_iff.mpr fun v hv => (h v hv).mono (Nat.zero_le 1)

/-- Well-formed items are those of the list they make up. -/
theorem items?_list {vs : List Value} (h : ∀ v ∈ vs, v.WellFormed 0) :
    (Value.list vs).items? = some vs := by
  have heq : vs.map (Value.settled (.list vs) 0) = vs.map id :=
    List.map_congr_left fun v hv => by rw [Value.settled_eq_self _ (h v hv), id]
  rw [Value.items?, heq, List.map_id]

/-- An entry under a text is found under it, when no key stands there twice. -/
theorem Fields.get?_of_mem {fs : Fields} (h : fs.KeysDistinct) {name : String} {v : Value}
    (hmem : (Key.str name, v) ∈ fs) : fs.get? name = some v := by
  induction fs with
  | nil => cases hmem
  | cons f fs ih =>
    obtain ⟨k, w⟩ := f
    rw [Fields.KeysDistinct, List.map_cons, List.pairwise_cons] at h
    rw [Fields.get?_cons]
    rcases List.mem_cons.mp hmem with heq | hrest
    · cases heq
      rw [if_pos rfl]
    · have hk : k ≠ .str name := by
        rintro rfl
        have hsame := h.1 _ (List.mem_map_of_mem hrest)
        simp at hsame
      rw [if_neg hk, ih h.2 hrest]

end ServerActions
