import ServerActions.Checked.Fields
import ServerActions.Proofs.Entries

/-!
# Results of checking, read backwards

A checked value that is valid was put together from valid parts.  Each way of putting parts together
is inverted once here, so that no later proof opens `Checked` again.

## Main definitions

* `Key.IsName` — a key is a text without surrogates.

## Main results

* `Checked.map_eq_valid`, `Checked.apply_eq_valid`, `Checked.under_eq_valid` — the parts of a valid
  result.
* `Model.read_eq_valid` — a model that was read from a value.
* `exists_undeclared_iff`, `Fields.ifNamed_seq_eq_valid` — keys that are all names, and what is read
  from a mapping that has such keys.
* `Fields.mem_of_get?`, `Fields.mem_of_find?` — what is found under a key is an entry.
* `Fields.insert_eq_putBy` — how an entry is inserted.
-/

namespace ServerActions

variable {α β : Type}

namespace Checked

theorem map_eq_valid {f : α → β} {x : Checked α} {b : β} :
    x.map f = .valid b ↔ ∃ a, x = .valid a ∧ f a = b := by
  cases x <;> simp [Checked.map]

theorem fmap_eq_valid {f : α → β} {x : Checked α} {b : β} :
    f <$> x = .valid b ↔ ∃ a, x = .valid a ∧ f a = b :=
  map_eq_valid

theorem apply_eq_valid {f : Checked (α → β)} {x : Checked α} {b : β} :
    f.apply x = .valid b ↔ ∃ g a, f = .valid g ∧ x = .valid a ∧ g a = b := by
  cases f <;> cases x <;> simp [Checked.apply]

theorem seq_eq_valid {f : Checked (α → β)} {x : Checked α} {b : β} :
    f <*> x = .valid b ↔ ∃ g a, f = .valid g ∧ x = .valid a ∧ g a = b :=
  apply_eq_valid

@[simp] theorem under_eq_valid {step : String} {x : Checked α} {a : α} :
    x.under step = .valid a ↔ x = .valid a := by
  cases x <;> simp [Checked.under]

@[simp] theorem toOption_eq_some {x : Checked α} {a : α} :
    x.toOption = some a ↔ x = .valid a := by
  cases x <;> simp [Checked.toOption]

@[simp] theorem fault_ne_valid {c : Complaint} {a : α} : Checked.fault c ≠ .valid a := by
  simp [Checked.fault]

end Checked

/-- A model that was read from a value was read from its entries. -/
theorem Model.read_eq_valid {m : Model α} {v : Value} {a : α} :
    m.read v = .valid a ↔ ∃ fs, v.fields? = some fs ∧ m.ofFields fs = .valid a := by
  unfold Model.read
  cases v.fields? <;> simp

/-! ### Names -/

section

variable {fs : Fields} {names : List (List String)} {a : α}

/-- A key is a text without surrogates. -/
def Key.IsName (k : Key) : Prop :=
  ∃ s, k = .str s ∧ Text.hasSurrogates s.toList = false

theorem Key.toName_eq_valid {k : Key} {s : String} :
    k.toName = .valid s ↔ k = .str s ∧ Text.hasSurrogates s.toList = false := by
  cases k with
  | str t =>
    cases ht : Text.hasSurrogates t.toList <;>
      simp only [Key.toName, Key.str?, ht, Bool.false_eq_true, if_false, if_true,
        Checked.valid.injEq, Checked.fault_ne_valid, Key.str.injEq, false_iff]
    · exact ⟨fun h => ⟨h, h ▸ ht⟩, And.left⟩
    · rintro ⟨rfl, hs⟩
      rw [ht] at hs
      cases hs
  | _ => simp [Key.toName, Key.str?]

instance : DecidablePred Key.IsName := fun k =>
  decidable_of_iff (k.toName.toOption.isSome = true) <| by
    simp only [Option.isSome_iff_exists, Checked.toOption_eq_some, Key.toName_eq_valid, Key.IsName]

theorem Key.IsName.isSome_str? {k : Key} (h : k.IsName) : k.str?.isSome = true := by
  obtain ⟨s, rfl, -⟩ := h
  rfl

theorem Key.IsName.isUnreadable_eq_false {k : Key} (h : k.IsName) : k.isUnreadable = false := by
  obtain ⟨s, rfl, hs⟩ := h
  exact hs

/-- The entries that are no fields can be read if every key is a name. -/
theorem exists_checkUndeclared_iff (used : List String) :
    (∃ es, checkUndeclared used fs = .valid es) ↔ ∀ f ∈ fs, f.1.IsName := by
  induction fs with
  | nil => simp [checkUndeclared]
  | cons f fs ih =>
    obtain ⟨k, v⟩ := f
    have hname : k.IsName ↔ ∃ s, k.toName = .valid s :=
      exists_congr fun s => Key.toName_eq_valid.symm
    rw [List.forall_mem_cons, ← ih, hname, checkUndeclared]
    cases k.toName with
    | valid s => by_cases hs : s ∈ used <;> simp [hs, Checked.map_eq_valid]
    | invalid faults => simp [Checked.apply_eq_valid]

theorem exists_undeclared_iff (names : List (List String)) :
    (∃ es, fs.undeclared names = .valid es) ↔ ∀ f ∈ fs, f.1.IsName :=
  exists_checkUndeclared_iff (names.filterMap fs.nameUsed)

/-- Keys that are names do not stand in the way. -/
theorem Fields.ifNamed_of_isName (h : ∀ f ∈ fs, f.1.IsName) (x : Checked α) : fs.ifNamed x = x := by
  refine if_neg fun hany => ?_
  obtain ⟨f, hf, hunreadable⟩ := List.any_eq_true.mp hany
  rw [(h f hf).isUnreadable_eq_false] at hunreadable
  cases hunreadable

theorem Fields.eq_valid_of_ifNamed {x : Checked α} (h : fs.ifNamed x = .valid a) :
    x = .valid a := by
  unfold Fields.ifNamed at h
  split_ifs at h
  · exact absurd h Checked.fault_ne_valid
  · exact h

/-- What is read from the fields and then from the further entries needs no other keys than
these do. -/
theorem Fields.ifNamed_seq_eq_valid {x : Checked (List (String × Value) → α)} :
    fs.ifNamed (x <*> fs.undeclared names) = .valid a ↔
      ∃ g es, x = .valid g ∧ fs.undeclared names = .valid es ∧ g es = a := by
  refine ⟨fun h => Checked.seq_eq_valid.mp (Fields.eq_valid_of_ifNamed h), fun h => ?_⟩
  have ⟨_, es, _, hes, _⟩ := h
  rw [Fields.ifNamed_of_isName ((exists_undeclared_iff names).mp ⟨es, hes⟩)]
  exact Checked.seq_eq_valid.mpr h

theorem Fields.ifNamed_map_eq_valid {g : List (String × Value) → α} :
    fs.ifNamed ((fs.undeclared names).map g) = .valid a ↔
      ∃ es, fs.undeclared names = .valid es ∧ g es = a := by
  refine ⟨fun h => Checked.map_eq_valid.mp (Fields.eq_valid_of_ifNamed h), fun h => ?_⟩
  have ⟨es, hes, _⟩ := h
  rw [Fields.ifNamed_of_isName ((exists_undeclared_iff names).mp ⟨es, hes⟩)]
  exact Checked.map_eq_valid.mpr h

end

/-! ### Entries -/

/-- What is found under a name is an entry. -/
theorem Fields.mem_of_get? {fs : Fields} {name : String} {v : Value}
    (h : fs.get? name = some v) : (Key.str name, v) ∈ fs := by
  induction fs with
  | nil => simp at h
  | cons f fs ih =>
    obtain ⟨k, w⟩ := f
    rw [Fields.get?_cons] at h
    split at h
    · next hk =>
      obtain rfl : w = v := Option.some.inj h
      rw [hk]
      exact List.mem_cons_self ..
    · exact List.mem_cons_of_mem _ (ih h)

/-- What is found under a key is an entry, under the same key. -/
theorem Fields.mem_of_find? {fs : Fields} {k : Key} {v : Value} (h : fs.find? k = some v) :
    ∃ k', k'.same k = true ∧ (k', v) ∈ fs := by
  obtain ⟨f, hf, rfl⟩ := Option.map_eq_some_iff.mp h
  exact ⟨f.1, by simpa using List.find?_some hf, List.mem_of_find?_eq_some hf⟩

/-- What is found under a name is changed as all values are. -/
theorem Fields.get?_map_snd (f : Value → Value) (fs : Fields) (name : String) :
    Fields.get? (fs.map fun e => (e.1, f e.2)) name = (fs.get? name).map f := by
  induction fs with
  | nil => rfl
  | cons e fs ih =>
    rw [List.map_cons, Fields.get?_cons, Fields.get?_cons, ih]
    split_ifs <;> rfl

/-- What is inserted is put where its key is the same as another one. -/
theorem Fields.insert_eq_putBy (fs : Fields) (k : Key) (v : Value) :
    fs.insert k v = putBy Key.same (k, v) fs := by
  induction fs with
  | nil => rfl
  | cons f fs ih => rw [Fields.insert, putBy, ih]

end ServerActions
