import ServerActions.Loading.Source
import ServerActions.Proofs.Value.WellFormed

/-!
# What is read is well-formed

The readers of the two forms put a value together from its parts.  An entry whose key is there
already takes its place, so that no key stands in a mapping twice; and a node of YAML that lies in
itself is referred to by how many collections lie between, so that nothing refers out of the whole.

## Main definitions

* `Results` — every value that a step gives has a property.

## Main results

* `Json.wellFormed_value` — the values of JSON are well-formed.
* `Yaml.wellFormed_valueAt` — the value of a node is well-formed inside of the collections above it.
* `Loading.check_of_load` — a description that is loaded was made of a well-formed value.
-/

namespace ServerActions

/-! ### Steps that can fail -/

/-- Every value that a step gives has a property. -/
def Results {ε α : Type} (P : α → Prop) (x : Except ε α) : Prop :=
  ∀ a, x = .ok a → P a

namespace Results

variable {ε α β : Type} {P : α → Prop} {Q : β → Prop}

theorem ok {a : α} (h : P a) : Results P (.ok a : Except ε α) := by
  rintro _ ⟨⟩
  exact h

theorem error {e : ε} : Results P (.error e : Except ε α) := by
  rintro _ ⟨⟩

theorem mapError {δ : Type} {x : Except ε α} {f : ε → δ} (h : Results P x) :
    Results P (x.mapError f) := by
  cases x with
  | error e => exact error
  | ok a => exact ok (h a rfl)

theorem bind {x : Except ε α} {f : α → Except ε β} (hx : Results P x)
    (hf : ∀ a, P a → Results Q (f a)) : Results Q (x >>= f) := by
  cases x with
  | error e => exact error
  | ok a => exact hf a (hx a rfl)

/-- What a step gives may have no property that matters. -/
theorem bind_any {x : Except ε α} {f : α → Except ε β} (hf : ∀ a, Results Q (f a)) :
    Results Q (x >>= f) :=
  bind (P := fun _ => True) (fun _ _ => trivial) fun a _ => hf a

theorem ite {p : Prop} [Decidable p] {x y : Except ε α} (hx : Results P x) (hy : Results P y) :
    Results P (if p then x else y) := by
  split
  · exact hx
  · exact hy

end Results

/-! ### JSON -/

namespace Json

/-- The entries of an object that is read. -/
def EntriesWellFormed (fs : Fields) : Prop :=
  fs.KeysDistinct ∧ ∀ f ∈ fs, f.2.WellFormed 0

theorem EntriesWellFormed.insert {fs : Fields} (h : EntriesWellFormed fs) (k : Key) {v : Value}
    (hv : v.WellFormed 0) : EntriesWellFormed (fs.insert k v) := by
  rw [Fields.insert_eq_putBy]
  exact ⟨pairwise_putBy _ h.1, forall_mem_putBy hv h.2⟩

theorem wellFormed_map {fs : Fields} (h : EntriesWellFormed fs) : (Value.map fs).WellFormed 0 :=
  ⟨h.1, wellFormedFields_iff.mpr fun f hf => (h.2 f hf).mono (Nat.zero_le _)⟩

theorem wellFormed_list {vs : List Value} (h : ∀ v ∈ vs, v.WellFormed 0) :
    (Value.list vs).WellFormed 0 :=
  wellFormedItems_iff.mpr fun v hv => (h v hv).mono (Nat.zero_le _)

/-- The words that are values are scalars. -/
theorem wellFormed_word {cs : List Char} {v : Value} {n : Nat} (h : wordAt cs = some (v, n)) :
    v.WellFormed 0 := by
  obtain ⟨w, hw, heq⟩ := Option.map_eq_some_iff.mp h
  obtain ⟨rfl, -⟩ := Prod.mk.inj heq
  have hmem := List.mem_of_find?_eq_some hw
  simp only [words, List.mem_cons, List.not_mem_nil, or_false] at hmem
  rcases hmem with rfl | rfl | rfl | rfl | rfl | rfl <;> trivial

theorem wellFormed_number (parts : NumberParts) : Results (·.WellFormed 0) parts.value := by
  unfold NumberParts.value
  split
  · split
    · exact .error
    · exact .ok trivial
  · exact .ok trivial

mutual
/-- **The values of JSON are well-formed.** -/
theorem wellFormed_value : ∀ (bound room : Nat) (c : Cursor),
    Results (fun r => r.1.WellFormed 0) (value bound room c)
  | 0, _, _ => .error
  | bound + 1, room, c => by
    rw [value]
    split
    · exact .bind_any fun _ => .ok trivial
    · refine .ite .error (.ite (.ok ⟨List.Pairwise.nil, trivial⟩) ?_)
      have hnone : EntriesWellFormed [] := ⟨List.Pairwise.nil, by simp⟩
      exact (wellFormed_entries bound _ hnone _).bind fun r hr => .ok (wellFormed_map hr)
    · refine .ite .error (.ite (.ok trivial) ?_)
      exact (wellFormed_items bound _ _).bind fun r hr => .ok (wellFormed_list hr)
    · split
      · next hword => exact .ok (wellFormed_word hword)
      · split
        · exact (wellFormed_number _).bind fun v hv => .ok hv
        · exact .error

theorem wellFormed_entries : ∀ (bound room : Nat) {fs : Fields}, EntriesWellFormed fs →
    ∀ c : Cursor, Results (fun r => EntriesWellFormed r.1) (entries bound room fs c)
  | 0, _, _, _, _ => .error
  | bound + 1, room, fs, h, c => by
    rw [entries]
    refine .bind_any fun c => .bind_any fun ⟨name, c⟩ => .bind_any fun c => ?_
    refine (wellFormed_value bound room _).bind fun ⟨v, c⟩ hv => ?_
    have hinsert := h.insert (.str name) hv
    exact .ite (.ok hinsert) (.bind_any fun c => wellFormed_entries bound room hinsert _)

theorem wellFormed_items : ∀ (bound room : Nat) (c : Cursor),
    Results (fun r => ∀ v ∈ r.1, v.WellFormed 0) (items bound room c)
  | 0, _, _ => .error
  | bound + 1, room, c => by
    rw [items]
    refine (wellFormed_value bound room c).bind fun ⟨v, c⟩ hv => ?_
    refine .ite (.ok fun w hw => List.mem_singleton.mp hw ▸ hv) (.bind_any fun c => ?_)
    refine (wellFormed_items bound room _).bind fun ⟨vs, c⟩ hvs => ?_
    exact .ok (List.forall_mem_cons.mpr ⟨hv, hvs⟩)
end

theorem wellFormed_document (cs : List Char) : Results (·.WellFormed 0) (document cs) := by
  refine .ite .error ((wellFormed_value _ _ _).bind fun ⟨v, after⟩ hv => ?_)
  exact .ite (.ok hv) .error

theorem wellFormed_read (cs : List Char) : Results (·.WellFormed 0) (Json.read cs) := by
  intro v h
  unfold Json.read at h
  split at h
  · next hdocument => exact Except.ok.inj h ▸ wellFormed_document cs _ hdocument
  · cases h

end Json

/-! ### YAML -/

namespace Yaml

theorem putSame_eq_putBy {α : Type} (e : Origin × α) (es : List (Origin × α)) :
    putSame e es = putBy Origin.same e es := by
  induction es with
  | nil => rfl
  | cons f es ih => rw [putSame, putBy, ih]

/-- Each key is there only once, and with one of the values that are given. -/
theorem oncePerKey_spec {α : Type} {P : α → Prop} {entries : List (Origin × α)}
    (h : ∀ e ∈ entries, P e.2) :
    ((oncePerKey entries).map Prod.fst).Pairwise (fun k k' => k.same k' = false) ∧
      ∀ e ∈ oncePerKey entries, P e.2 := by
  -- Generalised over the entries that are there already.
  have hfold : ∀ es : List (Origin × α),
      (es.map Prod.fst).Pairwise (fun o o' => o.same o' = false) → (∀ e ∈ es, P e.2) →
      ((entries.foldl (fun es e => putSame e es) es).map Prod.fst).Pairwise
          (fun o o' => o.same o' = false) ∧
        ∀ e ∈ entries.foldl (fun es e => putSame e es) es, P e.2 := by
    induction entries with
    | nil => exact fun es hes hP => ⟨hes, hP⟩
    | cons e entries ih =>
      obtain ⟨he, hentries⟩ := List.forall_mem_cons.mp h
      intro es hes hP
      rw [List.foldl_cons, putSame_eq_putBy]
      exact ih hentries _ (pairwise_putBy e hes) (forall_mem_putBy he hP)
  obtain ⟨hkeys, hvalues⟩ := hfold [] List.Pairwise.nil (by simp)
  constructor
  · rw [oncePerKey, List.map_map]
    rw [List.pairwise_map] at hkeys ⊢
    exact hkeys.imp fun hsame => (Bool.or_eq_false_iff.mp hsame).1
  · intro e he
    obtain ⟨f, hf, rfl⟩ := List.mem_map.mp he
    exact hvalues f hf

theorem wellFormed_mapping {s : Building} {depth : Nat} {part : Nat → Value}
    (h : ∀ i, (part i).WellFormed (depth + 1)) (entries : List (Nat × Nat)) :
    (Value.map (oncePerKey (entries.filterMap fun e =>
      (s.key? e.1).map (·, part e.2)))).WellFormed depth := by
  have hentries : ∀ e ∈ entries.filterMap (fun e => (s.key? e.1).map (·, part e.2)),
      e.2.WellFormed (depth + 1) := by
    intro e he
    obtain ⟨f, -, hf⟩ := List.mem_filterMap.mp he
    obtain ⟨o, -, rfl⟩ := Option.map_eq_some_iff.mp hf
    exact h f.2
  obtain ⟨hkeys, hvalues⟩ := oncePerKey_spec hentries
  exact ⟨hkeys, wellFormedFields_iff.mpr hvalues⟩

/-- **The value of a node is well-formed inside of the collections above it.** -/
theorem wellFormed_valueAt (s : Building) : ∀ (levels : Nat) (above : List Nat) (i : Nat),
    (s.valueAt levels above i).WellFormed above.length
  | 0, _, _ => trivial
  | levels + 1, above, i => by
    have hpart : ∀ j, (s.valueAt levels (i :: above) j).WellFormed (above.length + 1) :=
      wellFormed_valueAt s levels (i :: above)
    rw [Building.valueAt]
    split
    · exact wellFormed_toValue _ _
    · split
      · next hlevel =>
        -- A node that lies in itself is one of those above.
        obtain ⟨hlt, -⟩ := List.idxOf?_eq_some_iff.mp hlevel
        exact hlt
      · dsimp only
        split
        · trivial
        · split
          · refine wellFormedItems_iff.mpr fun v hv => ?_
            obtain ⟨e, -, rfl⟩ := List.mem_map.mp hv
            exact ⟨hpart _, hpart _⟩
          · refine wellFormedItems_iff.mpr fun v hv => ?_
            obtain ⟨j, -, rfl⟩ := List.mem_map.mp hv
            exact hpart j
        · split
          · trivial
          · exact wellFormed_mapping hpart _

theorem wellFormed_read (cs : List Char) : Results (·.WellFormed 0) (Yaml.read cs) := by
  refine .ite .error (.bind_any fun g => ?_)
  cases g with
  | none => exact .ok trivial
  | some g => exact .bind_any fun r => .ok (wellFormed_valueAt r.2 _ [] _)

end Yaml

/-! ### Descriptions -/

namespace Loading

open Description (Document)

theorem wellFormed_format (f : Format) (cs : List Char) : Results (·.WellFormed 0) (f.read cs) := by
  cases f with
  | json => exact (Json.wellFormed_read cs).mapError
  | yaml => exact (Yaml.wellFormed_read cs).mapError

theorem wellFormed_fileValue (t : Files.Tree) (cwd : Files.Trail) (p : Files.Path) :
    Results (·.WellFormed 0) (fileValue t cwd p) :=
  .bind_any fun _ => .ite .error
    (.bind_any fun _ => .bind_any fun cs => wellFormed_format _ cs)

theorem wellFormed_responseValue (url : String) (asked : Network.Url) (r : Network.Response) :
    Results (·.WellFormed 0) (responseValue url asked r) := by
  unfold responseValue
  split
  · exact .error
  · refine .ite .error (.ite .error ?_)
    split
    · exact wellFormed_format _ _
    · exact .error

theorem wellFormed_urlValue (fetch : Fetch) (url : String) :
    Results (·.WellFormed 0) (urlValue fetch url) := by
  unfold urlValue
  split
  · exact .error
  · split
    · exact .error
    · exact wellFormed_responseValue _ _ _

/-- **A description that is loaded was made of a well-formed value.** -/
theorem check_of_load {fetch : Fetch} {t : Files.Tree} {cwd : Files.Trail} {base : Files.Path}
    {source : String} {doc : Document} (h : load fetch t cwd base source = .ok doc) :
    ∃ v : Value, v.WellFormed 0 ∧ check source v = .ok doc := by
  unfold load fromUrl fromFile at h
  split at h
  · split at h
    · next v hv => exact ⟨v, wellFormed_urlValue _ _ v hv, h⟩
    · cases h
  · split at h
    · next v hv => exact ⟨v, wellFormed_fileValue _ _ _ v hv, h⟩
    · cases h

end Loading

end ServerActions
