import Mathlib.Data.List.Forall2
import ServerActions.Proofs.Description.Document

/-!
# The operations that a description declares

The paths of a description and the operations of a path stand in the order in which the description
gives them, each as its own entry says.

## Main definitions

* `pathEntries` — the paths that a description gives, each with the entries given for it.
* `methodsIn`, `givenFor?` — the methods that the entries of a path name, and what is given for one.

## Main results

* `read_paths` — the paths that are read are those given, each read from its own entries.
* `read_operations` — the operations that are read are those of the methods named, each read from
  what is given last for its method.
-/

namespace ServerActions

variable {α : Type}

/-! ### Mappings with texts as keys -/

/-- The entries of a mapping are read one for one. -/
theorem checkEntries_eq_valid {read : Value → Checked α} {fs : Fields} {es : List (String × α)} :
    checkEntries read fs = .valid es ↔
      List.Forall₂ (fun f e => f.1.toText = .valid e.1 ∧ read f.2 = .valid e.2) fs es := by
  induction fs generalizing es with
  | nil =>
    rw [checkEntries, List.forall₂_nil_left_iff, Checked.valid.injEq]
    exact eq_comm
  | cons f fs ih =>
    obtain ⟨k, v⟩ := f
    rw [checkEntries_cons_eq_valid, List.forall₂_cons_left_iff]
    constructor
    · rintro ⟨name, a, rest, hk, ha, hrest, rfl⟩
      exact ⟨(name, a), rest, ⟨hk, ha⟩, ih.mp hrest, rfl⟩
    · rintro ⟨e, rest, ⟨hk, ha⟩, hrest, rfl⟩
      exact ⟨e.1, e.2, rest, hk, ha, ih.mpr hrest, rfl⟩

/-- The entries under their names as the entries of a mapping. -/
def namedFields (es : List (String × Value)) : Fields :=
  es.map fun e => (.str e.1, e.2)

theorem insert_namedFields (es : List (String × Value)) (e : String × Value) :
    (namedFields es).insert (.str e.1) e.2
      = namedFields (putBy (fun k k' => decide (k = k')) e es) := by
  induction es with
  | nil => rfl
  | cons f es ih =>
    have hcons : namedFields (f :: es) = (.str f.1, f.2) :: namedFields es := rfl
    rw [hcons, Fields.insert, Key.same_str, putBy]
    split_ifs
    · rfl
    · rw [ih]
      rfl

/-- A mapping that is built of named entries has each name where it appears first, with what is
given last. -/
theorem ofList_namedFields (es : List (String × Value)) :
    Fields.ofList (namedFields es) = namedFields (putEach [] es) := by
  induction es using List.reverseRecOn with
  | nil => rfl
  | append_singleton es e ih =>
    rw [putEach_concat, ← insert_namedFields, ← ih, Fields.ofList, namedFields, List.map_append,
      List.foldl_append]
    rfl

namespace Description

/-! ### Operations -/

/-- The methods that the entries of a path name, in the order in which they are named first. -/
def methodsIn (fs : Fields) : List String :=
  (fs.filterMap fun f => methodOf? f.1).eraseDups

/-- What the entries of a path give for a method; of several the last one counts. -/
def givenFor? (fs : Fields) (method : String) : Option Value :=
  (fs.filter fun f => methodOf? f.1 = some method).getLast?.map Prod.snd

/-- The entries that name methods, under the methods' names. -/
def methodEntriesOf (fs : Fields) : List (String × Value) :=
  fs.filterMap fun f => (methodOf? f.1).map (·, f.2)

theorem methodEntries_eq (fs : Fields) :
    methodEntries fs = namedFields (putEach [] (methodEntriesOf fs)) := by
  rw [← ofList_namedFields, methodEntries, namedFields, methodEntriesOf, List.map_filterMap]
  simp only [Option.map_map]
  rfl

theorem map_fst_methodEntriesOf (fs : Fields) :
    (methodEntriesOf fs).map Prod.fst = fs.filterMap fun f => methodOf? f.1 := by
  simp only [methodEntriesOf, List.map_filterMap, Option.map_map, Function.comp_def, Option.map_id']

theorem lookup_methodEntriesOf (fs : Fields) (method : String) :
    (putEach [] (methodEntriesOf fs)).lookup method = givenFor? fs method := by
  rw [lookup_putEach, List.lookup_nil, Option.or_none, givenFor?, ← List.getLast?_map,
    ← List.getLast?_map]
  -- Both sides take the last of the entries that name the method.
  refine congrArg _ ?_
  induction fs with
  | nil => rfl
  | cons f fs ih =>
    rw [methodEntriesOf, List.filterMap_cons, ← methodEntriesOf]
    cases hm : methodOf? f.1 with
    | none => simp [hm, ih]
    | some m => by_cases h : m = method <;> simp [hm, h, ih]

/-- **The operations of a path are those of the methods that its entries name**, in the order in
which they are named first, each read from what is given last for its method. -/
theorem read_operations {fs : Fields} {item : PathItem}
    (h : PathItem.model.ofFields fs = .valid item) :
    List.Forall₂ (fun method o => method = o.1 ∧
      ∃ v, givenFor? fs method = some v ∧ Operation.model.read v = .valid o.2)
      (methodsIn fs) item.operations := by
  have hread := checkEntries_eq_valid.mp (PathItem.operations_of_valid h)
  rw [methodEntries_eq, namedFields, List.forall₂_map_left_iff] at hread
  rw [methodsIn, ← map_fst_methodEntriesOf, ← map_fst_putEach, List.forall₂_map_left_iff]
  refine ((List.forall₂_and_left _ _).mpr ⟨fun e he => lookup_of_mem_putEach he, hread⟩).imp ?_
  rintro e o ⟨hlookup, hname, hvalue⟩
  exact ⟨Checked.valid.inj hname, e.2, (lookup_methodEntriesOf fs e.1).symm.trans hlookup, hvalue⟩

/-! ### Paths -/

/-- The entries of the field of paths. -/
def pathFields (root : Fields) : Fields :=
  ((root.get? "paths").bind Value.fields?).getD []

/-- The paths that a description gives, each with the entries given for it. -/
def pathEntries (root : Fields) : List (String × Fields) :=
  ((pathFields root).filter fun f => isPathKey f.1).filterMap fun f =>
    f.1.str?.map (·, f.2.fields?.getD [])

/-- What is read from the field of paths. -/
theorem pathsOf_eq_valid {v : Value} {paths : List (String × PathItem)}
    (h : pathsOf v = .valid paths) : checkEntries PathItem.model.read
      ((v.fields?.getD []).filter fun f => isPathKey f.1) = .valid paths := by
  unfold pathsOf at h
  split at h
  · next hnull =>
    cases v with
    | null => exact h
    | _ => cases hnull
  · split at h
    · next hfs => rwa [hfs]
    · cases h

theorem pathFields_of_valid {root : Fields} {c : Contents}
    (h : Contents.model.ofFields root = .valid c) : checkEntries PathItem.model.read
      ((pathFields root).filter fun f => isPathKey f.1) = .valid c.paths := by
  obtain ⟨hpaths, -⟩ := Contents.fields_of_valid h
  unfold Fields.withDefault Fields.lookup Fields.lookup at hpaths
  rw [pathFields]
  cases hget : root.get? "paths" with
  | none =>
    rw [hget] at hpaths
    exact hpaths
  | some v =>
    rw [hget] at hpaths
    exact pathsOf_eq_valid (Checked.under_eq_valid.mp hpaths)

/-- **The paths of a description are those given**, each read from its own entries. -/
theorem read_paths {root : Fields} {c : Contents} (h : Contents.model.ofFields root = .valid c) :
    List.Forall₂ (fun given p => given.1 = p.1 ∧ PathItem.model.ofFields given.2 = .valid p.2)
      (pathEntries root) c.paths := by
  have hread := (List.forall₂_and_left _ _).mpr
    ⟨fun f hf => (List.mem_filter.mp hf).2, checkEntries_eq_valid.mp (pathFields_of_valid h)⟩
  rw [pathEntries, ← List.filterMap_some (l := c.paths)]
  refine List.rel_filterMap (fun f p hp => ?_) hread
  obtain ⟨hkey, hname, hitem⟩ := hp
  obtain ⟨fs, hfs, hitem⟩ := Model.read_eq_valid.mp hitem
  obtain ⟨k, v⟩ := f
  cases k with
  | str s => exact .some ⟨Checked.valid.inj hname, by rwa [hfs]⟩
  | _ => cases hkey

end Description

end ServerActions
