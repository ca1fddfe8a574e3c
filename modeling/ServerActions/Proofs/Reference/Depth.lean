import ServerActions.Proofs.Reference.Occurrence

/-!
# How deep schemas are read

A schema is read down to a depth that depends on where it is found, and a keyword below that depth
counts as absent.  So one value may be read as two nodes: the one that is read with fewer levels
left is the other one, cut at these levels.  The two are the same just when nothing had to be cut.

## Main definitions

* `Fits` — at most so many nodes lie inside one another in a node.
* `prune` — a node cut at some levels.
* `nest`, `tower` — a schema with so many others inside one another, and the node it is read as.

## Main results

* `fits_of_readWithin` — no more nodes lie inside one another than there were levels.
* `toOption_readWithin_of_le` — **what is read with fewer levels is what is read with more of them,
  cut**.
* `read_of_readAt` — a node that is read at a depth is the one that is read on its own if and only
  if it fits into the levels that are left there.
* `readAt_nest` — schemas inside one another are read as far as the levels are enough for them.
-/

namespace ServerActions.Reference

open Description (Node NodeReader Keywords Extras referenceKey readAll keyword? itemsOf propertiesOf
  propertyEntries nodesOf maxDepth)

/-- At most so many nodes lie inside one another in a node, itself included. -/
inductive Fits : ℕ → Node → Prop
  | reference (levels : ℕ) (r : Description.Reference) : Fits (levels + 1) (.reference r)
  | schema {levels : ℕ} {k : Keywords} {items : Option Node}
      {properties : Option (List (String × Node))} {allOf oneOf anyOf : Option (List Node)}
      {extras : Extras}
      (hinside : ∀ m ∈ keywordNodes items properties allOf oneOf anyOf, Fits levels m) :
      Fits (levels + 1) (.schema k items properties allOf oneOf anyOf extras)

/-! ### Reading -/

/-- No more nodes lie inside one another than there were levels. -/
theorem fits_of_readWithin (levels : ℕ) : ∀ (around : List Value) (v : Value) (n : Node),
    Node.readWithin levels around v = .valid n → Fits levels n := by
  induction levels with
  | zero => intro around v n h; simp [Node.readWithin] at h
  | succ levels ih =>
    intro around v n h
    rw [Node.readWithin] at h
    split_ifs at h with hsame href
    · simp at h
    · simp only [Checked.under_eq_valid, Checked.map_eq_valid] at h
      obtain ⟨r, -, rfl⟩ := h
      exact .reference levels r
    · simp only [Checked.under_eq_valid, Model.read_eq_valid, schemaWith_eq_valid] at h
      obtain ⟨fs, -, extras, -, rfl⟩ := h
      refine .schema fun m hm => ?_
      obtain ⟨w, hw, -⟩ := read_of_mem_keywordNodes hm
      exact ih _ w m hw

/-- What is read with some levels is read with more of them, if not as the same node. -/
theorem exists_readWithin_of_le {levels more : ℕ} {around : List Value} {v : Value} {n : Node}
    (h : Node.readWithin levels around v = .valid n) (hle : levels ≤ more) :
    ∃ m, Node.readWithin more around v = .valid m := by
  obtain _ | levels := levels
  · simp [Node.readWithin] at h
  obtain ⟨more, rfl⟩ := Nat.exists_eq_add_of_le' (Nat.lt_of_lt_of_le (Nat.succ_pos levels) hle)
  rw [Node.readWithin] at h ⊢
  split_ifs at h ⊢ with hsame href
  · simp at h
  · exact ⟨n, h⟩
  · -- Only the keys of the mapping itself decide whether it is read.
    simp only [Checked.under_eq_valid, Model.read_eq_valid, schemaWith_eq_valid] at h ⊢
    obtain ⟨fs, hfs, extras, hextras, -⟩ := h
    exact ⟨_, fs, hfs, extras, hextras, rfl⟩

/-! ### Fewer levels -/

/-- A node with only so many levels of nodes inside one another.  A keyword with nodes that would
lie below them is left out. -/
def prune : ℕ → Node → Option Node
  | 0, _ => none
  | _ + 1, .reference r => some (.reference r)
  | levels + 1, .schema k items properties allOf oneOf anyOf extras =>
    some (.schema k (items.bind (prune levels))
      (properties.bind fun ps =>
        ((ps.map Prod.snd).mapM (prune levels)).map ((ps.map Prod.fst).zip ·))
      (allOf.bind (·.mapM (prune levels))) (oneOf.bind (·.mapM (prune levels)))
      (anyOf.bind (·.mapM (prune levels))) extras)

/-- As long as there is a level, a node stays when it is cut. -/
theorem exists_prune (levels : ℕ) (n : Node) : ∃ m, prune (levels + 1) n = some m := by
  cases n <;> exact ⟨_, rfl⟩

theorem mapM_eq_some_self {α : Type} {f : α → Option α} {as : List α}
    (h : ∀ a ∈ as, f a = some a) : as.mapM f = some as := by
  induction as with
  | nil => rfl
  | cons a as ih =>
    obtain ⟨ha, has⟩ := List.forall_mem_cons.mp h
    simp [List.mapM_cons, ha, ih has]

/-- A node that fits is not changed. -/
theorem prune_of_fits {levels : ℕ} {n : Node} (h : Fits levels n) : prune levels n = some n := by
  induction h with
  | reference levels r => rfl
  | @schema levels k items properties allOf oneOf anyOf extras _ ih =>
    simp only [keywordNodes, List.mem_append, List.mem_map, Option.mem_toList] at ih
    have hnodes {ns : Option (List Node)} (h : ∀ m ∈ ns.getD [], prune levels m = some m) :
        ns.bind (·.mapM (prune levels)) = ns := by
      cases ns with
      | none => rfl
      | some ns => exact mapM_eq_some_self h
    have hitems : items.bind (prune levels) = items := by
      cases items with
      | none => rfl
      | some m => exact ih m (by simp)
    have hproperties : (properties.bind fun ps => ((ps.map Prod.snd).mapM (prune levels)).map
        ((ps.map Prod.fst).zip ·)) = properties := by
      cases properties with
      | none => rfl
      | some ps =>
        have hps : (ps.map Prod.snd).mapM (prune levels) = some (ps.map Prod.snd) :=
          mapM_eq_some_self (List.forall_mem_map.mpr fun p hp =>
            ih p.2 (Or.inl (Or.inl (Or.inl (Or.inr ⟨p, hp, rfl⟩)))))
        rw [Option.bind_some, hps, Option.map_some, List.zip_map']
        simp
    rw [prune, hitems, hproperties, hnodes fun m hm => ih m (by simp [hm]),
      hnodes fun m hm => ih m (by simp [hm]), hnodes fun m hm => ih m (by simp [hm])]

section

variable {levels : ℕ} {few many : NodeReader} {fs : Fields}

/-- What one reader reads is what another one reads, cut. -/
def Prunes (levels : ℕ) (few many : NodeReader) : Prop :=
  ∀ v, (few v).toOption = (many v).toOption.bind (prune levels)

theorem Prunes.readAll_eq (h : Prunes levels few many) (vs : List Value) :
    readAll few vs = (readAll many vs).bind (·.mapM (prune levels)) := by
  induction vs with
  | nil => rfl
  | cons v vs ih =>
    rw [readAll, readAll, h v, ih]
    cases (many v).toOption with
    | none => rfl
    | some n =>
      cases readAll many vs with
      | none => cases hpruned : prune levels n <;> simp [hpruned]
      | some ns => simp [List.mapM_cons]

theorem Prunes.itemsOf_eq (h : Prunes levels few many) :
    itemsOf few fs = (itemsOf many fs).bind (prune levels) := by
  rw [itemsOf, itemsOf, keyword?, keyword?, Option.bind_assoc]
  exact Option.bind_congr fun v _ => h v

theorem Prunes.nodesOf_eq (h : Prunes levels few many) (name : String) :
    nodesOf few name fs = (nodesOf many name fs).bind (·.mapM (prune levels)) := by
  unfold nodesOf
  cases fs.get? name with
  | none => rfl
  | some v =>
    cases hvs : v.items? with
    | none => simp [hvs]
    | some vs => simp [hvs, h.readAll_eq]

theorem Prunes.propertiesOf_eq (h : Prunes levels few many) :
    propertiesOf few fs = (propertiesOf many fs).bind fun ps =>
      ((ps.map Prod.snd).mapM (prune levels)).map ((ps.map Prod.fst).zip ·) := by
  unfold propertiesOf
  cases fs.get? "properties" with
  | none => rfl
  | some v =>
    cases hinner : v.fields? with
    | none => simp [hinner]
    | some inner =>
      simp only [hinner, Option.bind_eq_bind, Option.bind_some, h.readAll_eq]
      cases hns : readAll many ((propertyEntries inner).map Prod.snd) with
      | none => rfl
      | some ns =>
        -- There is one node for each name, so the names and the nodes are found again.
        have hlen : ((propertyEntries inner).map Prod.fst).length = ns.length := by
          rw [← (readAll_eq_some_iff.mp hns).length_eq, List.length_map, List.length_map]
        simp only [Option.bind_some, Option.pure_def, List.map_fst_zip (Nat.le_of_eq hlen),
          List.map_snd_zip (Nat.le_of_eq hlen.symm)]
        cases ns.mapM (prune levels) <;> rfl

end

/-- **What is read with fewer levels is what is read with more of them, cut.** -/
theorem toOption_readWithin_of_le (levels : ℕ) : ∀ (more : ℕ) (around : List Value) (v : Value)
    (n : Node), levels ≤ more → Node.readWithin more around v = .valid n →
      (Node.readWithin levels around v).toOption = prune levels n := by
  induction levels with
  | zero => intro more around v n _ _; rfl
  | succ levels ih =>
    intro more around v n hle h
    obtain ⟨more, rfl⟩ := Nat.exists_eq_add_of_le' (Nat.lt_of_lt_of_le (Nat.succ_pos levels) hle)
    have hless : levels ≤ more := by omega
    have hprunes : Prunes levels (Node.readWithin levels (v :: around))
        (Node.readWithin more (v :: around)) := by
      intro w
      cases hmany : Node.readWithin more (v :: around) w with
      | valid m => exact ih more _ w m hless hmany
      | invalid faults =>
        -- What is not read with more levels is not read with fewer either.
        cases hfew : Node.readWithin levels (v :: around) w with
        | valid m =>
          obtain ⟨m', hm'⟩ := exists_readWithin_of_le hfew hless
          cases hmany.symm.trans hm'
        | invalid faults => rfl
    rw [Node.readWithin] at h ⊢
    split_ifs at h ⊢ with hsame href
    · simp at h
    · rw [h]
      simp only [Checked.under_eq_valid, Checked.map_eq_valid] at h
      obtain ⟨r, -, rfl⟩ := h
      rfl
    · simp only [Checked.under_eq_valid, Model.read_eq_valid, schemaWith_eq_valid] at h
      obtain ⟨fs, hfs, extras, hextras, rfl⟩ := h
      rw [Checked.toOption_eq_some.mpr (Checked.under_eq_valid.mpr (Model.read_eq_valid.mpr
        ⟨fs, hfs, schemaWith_eq_valid.mpr ⟨extras, hextras, rfl⟩⟩)), prune, ← hprunes.itemsOf_eq,
        ← hprunes.propertiesOf_eq, ← hprunes.nodesOf_eq, ← hprunes.nodesOf_eq, ← hprunes.nodesOf_eq]

/-- With fewer levels a node is read the same, as long as it fits into them. -/
theorem readWithin_of_fits {levels more : ℕ} {around : List Value} {v : Value} {n : Node}
    (hle : levels ≤ more) (h : Node.readWithin more around v = .valid n) (hfits : Fits levels n) :
    Node.readWithin levels around v = .valid n := by
  have hpruned := toOption_readWithin_of_le levels more around v n hle h
  rw [prune_of_fits hfits] at hpruned
  exact Checked.toOption_eq_some.mp hpruned

/-- A node that is read at a depth is read on its own as far as the levels are enough there, and
is the same if and only if it fits into them. -/
theorem read_of_readAt {depth : ℕ} {v : Value} {n : Node} (hdepth : depth ≤ 1)
    (h : Node.readAt depth v = .valid n) :
    ∃ m, Node.read v = .valid m ∧ prune (maxDepth - 1) n = some m ∧
      (m = n ↔ Fits (maxDepth - 1) n) := by
  have hle : maxDepth - 1 ≤ maxDepth - depth := Nat.sub_le_sub_left hdepth maxDepth
  obtain ⟨m, hm⟩ := exists_prune (maxDepth - 2) n
  have hread : Node.read v = .valid m :=
    Checked.toOption_eq_some.mp ((toOption_readWithin_of_le _ _ [] v n hle h).trans hm)
  refine ⟨m, hread, hm, fun heq => ?_, fun hfits => ?_⟩
  · exact heq ▸ fits_of_readWithin _ [] v m hread
  · exact Option.some.inj (hm.symm.trans (prune_of_fits hfits))

/-! ### Schemas of lists of lists -/

/-- A schema with the keyword for items in it, and so on for some levels. -/
def nest : ℕ → Value
  | 0 => .map []
  | k + 1 => .map [(.str "items", nest k)]

/-- The node that has so many others inside one another. -/
def tower : ℕ → Node
  | 0 => .schema (Keywords.read []) none none none none none []
  | k + 1 => .schema (Keywords.read []) (some (tower k)) none none none none []

theorem wellFormed_nest (k : ℕ) : (nest k).WellFormed 0 := by
  induction k with
  | zero => exact ⟨.nil, trivial⟩
  | succ k ih =>
    have hkeys : Fields.KeysDistinct [(.str "items", nest k)] := List.pairwise_singleton _ _
    exact ⟨hkeys, ih.mono (Nat.zero_le 1), trivial⟩

theorem same_nest (j k : ℕ) : (nest j).same (nest k) = decide (j = k) := by
  induction j generalizing k with
  | zero => cases k <;> simp [nest, Value.same, sameFields]
  | succ j ih => cases k <;> simp [nest, Value.same, sameFields, sameField, ih]

theorem fields?_nest_succ (k : ℕ) : (nest (k + 1)).fields? = some [(.str "items", nest k)] :=
  fields?_map fun f hf => by
    rw [List.mem_singleton.mp hf]
    exact wellFormed_nest k

/-- None of the schemas is written like another one inside it. -/
theorem not_any_same_nest {around : List Value} {k : ℕ}
    (h : ∀ v ∈ around, ∃ j, k < j ∧ v = nest j) : ¬ around.any (nest k).same = true := by
  rw [List.any_eq_true]
  rintro ⟨v, hv, hsame⟩
  obtain ⟨j, hlt, rfl⟩ := h v hv
  rw [same_nest, decide_eq_true_iff] at hsame
  exact absurd hsame (Nat.ne_of_lt hlt)

/-- **Each level that is left is spent on one of the schemas**, and what is below the last one is
cut off. -/
theorem readWithin_nest (k : ℕ) : ∀ (levels : ℕ) (around : List Value),
    (∀ v ∈ around, ∃ j, k < j ∧ v = nest j) →
      Node.readWithin (levels + 1) around (nest k) = .valid (tower (min levels k)) := by
  induction k with
  | zero =>
    intro levels around haround
    rw [Node.readWithin, if_neg (not_any_same_nest haround), Nat.min_zero]
    rfl
  | succ k ih =>
    intro levels around haround
    have hread : (Node.schemaWith (Node.readWithin levels (nest (k + 1) :: around))).read
        (nest (k + 1)) = .valid (.schema (Keywords.read [])
          (Node.readWithin levels (nest (k + 1) :: around) (nest k)).toOption
          none none none none []) := by
      rw [Model.read, fields?_nest_succ]
      rfl
    rw [Node.readWithin, if_neg (not_any_same_nest haround), hread, fields?_nest_succ]
    cases levels with
    | zero => rfl
    | succ levels =>
      -- Around the inner schema is this one besides those around both.
      have hinner : ∀ v ∈ nest (k + 1) :: around, ∃ j, k < j ∧ v = nest j := by
        intro v hv
        rcases List.mem_cons.mp hv with rfl | hv
        · exact ⟨k + 1, Nat.lt_succ_self k, rfl⟩
        · obtain ⟨j, hlt, hj⟩ := haround v hv
          exact ⟨j, Nat.lt_of_succ_lt hlt, hj⟩
      rw [ih levels _ hinner, Nat.succ_min_succ]
      rfl

/-- Schemas inside one another are read as far as the levels that are left are enough for them. -/
theorem readAt_nest {depth : ℕ} (hdepth : depth < maxDepth) (k : ℕ) :
    Node.readAt depth (nest k) = .valid (tower (min (maxDepth - depth - 1) k)) := by
  obtain ⟨levels, hlevels⟩ := Nat.exists_eq_succ_of_ne_zero (Nat.sub_ne_zero_of_lt hdepth)
  rw [Node.readAt, hlevels]
  exact readWithin_nest k levels [] fun v hv => absurd hv List.not_mem_nil

theorem tower_injective : Function.Injective tower := by
  intro j
  induction j with
  | zero => intro k h; cases k <;> simp [tower] at h ⊢
  | succ j ih =>
    intro k h
    cases k with
    | zero => simp [tower] at h
    | succ k =>
      simp only [tower, Node.schema.injEq, Option.some.injEq, and_true, true_and] at h
      rw [ih h]

end ServerActions.Reference
