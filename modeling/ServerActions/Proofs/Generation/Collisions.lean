import Mathlib.Data.List.Induction
import Mathlib.Data.List.Nodup
import ServerActions.Generation.Document
import ServerActions.Proofs.Entries

/-!
# Names that several units have

Which names come up for more than one unit, and which operations have such a name.

## Main definitions

* `labelsOf` — the operations whose units have a name, as they are named in messages.
* `repeatedNames` — the names that at least two units have, in the order in which they appear first.

## Main results

* `collisions_eq` — the collisions found are the repeated names with their operations.
* `repeatedNames_eq_nil_iff` — no name is repeated if and only if the names are distinct.
-/

namespace ServerActions.Generation

/-! ### Labels by names -/

/-- The units with a name, each as its method in capitals and its path. -/
def labelsOf (us : List Action.Unit) (name : String) : List String :=
  (us.filter (·.name = name)).map fun u =>
    String.ofList (Text.upper u.method.toList) ++ " " ++ u.path

section

variable {name text : String} {names : List String} {labels : String → List String}

/-- A label is added to those of its name, where there are any. -/
theorem addLabel_of_mem (hnodup : names.Nodup) (h : name ∈ names) :
    addLabel name text (names.map fun n => (n, labels n))
      = names.map fun n => (n, if n = name then labels n ++ [text] else labels n) := by
  induction names with
  | nil => cases h
  | cons n names ih =>
    obtain ⟨hn, hnodup⟩ := List.nodup_cons.mp hnodup
    rw [List.map_cons, List.map_cons, addLabel]
    by_cases heq : n = name
    · rw [if_pos heq, if_pos heq]
      refine congrArg _ (List.map_congr_left fun n' hn' => ?_)
      rw [if_neg fun h' : n' = name => hn (h'.trans heq.symm ▸ hn')]
    · have hmem : name ∈ names := (List.mem_cons.mp h).resolve_left (Ne.symm heq)
      rw [if_neg heq, if_neg heq, ih hnodup hmem]

/-- A name that comes up for the first time stands at the end. -/
theorem addLabel_of_not_mem (h : name ∉ names) :
    addLabel name text (names.map fun n => (n, labels n))
      = (names.map fun n => (n, labels n)) ++ [(name, [text])] := by
  induction names with
  | nil => rfl
  | cons n names ih =>
    obtain ⟨hn, hnames⟩ := not_or.mp (List.mem_cons.not.mp h)
    rw [List.map_cons, addLabel, if_neg (Ne.symm hn), ih hnames, List.cons_append]

end

/-- The labels are those of the names, in the order in which the names appear first. -/
theorem byName_eq (us : List Action.Unit) :
    byName us = (us.map Action.Unit.name).eraseDups.map fun n => (n, labelsOf us n) := by
  induction us using List.reverseRecOn with
  | nil => rfl
  | append_singleton us u ih =>
    have hlabels : ∀ n, labelsOf (us ++ [u]) n
        = if n = u.name then labelsOf us n ++ [label u] else labelsOf us n := by
      intro n
      rw [labelsOf, List.filter_append, List.map_append]
      split_ifs with h
      · rw [List.filter_cons_of_pos (by simpa using h.symm)]
        rfl
      · rw [List.filter_cons_of_neg (by simpa using Ne.symm h), List.filter_nil, List.map_nil,
          List.append_nil, labelsOf]
    rw [byName, List.foldl_append, List.foldl_cons, List.foldl_nil, ← byName, ih, List.map_append,
      List.map_cons, List.map_nil, eraseDups_concat]
    -- The name of the last unit came up before, or it comes up there for the first time.
    split_ifs with h
    · simp only [hlabels]
      exact addLabel_of_mem (nodup_eraseDups _) (List.mem_eraseDups.mpr h)
    · have hnone : labelsOf us u.name = [] := by
        rw [labelsOf, List.filter_eq_nil_iff.mpr fun u' hu' hname =>
          h (List.mem_map.mpr ⟨u', hu', of_decide_eq_true hname⟩), List.map_nil]
      rw [addLabel_of_not_mem fun hmem => h (List.mem_eraseDups.mp hmem), List.map_append,
        List.map_cons, List.map_nil, hlabels, if_pos rfl, hnone, List.nil_append]
      refine congrArg (· ++ _) (List.map_congr_left fun n hn => ?_)
      rw [hlabels, if_neg fun h' : n = u.name => h (h' ▸ List.mem_eraseDups.mp hn)]

/-! ### Repeated names -/

/-- The names that at least two units have, in the order in which they appear first. -/
def repeatedNames (us : List Action.Unit) : List String :=
  (us.map Action.Unit.name).eraseDups.filter fun n => 2 ≤ (us.map Action.Unit.name).count n

/-- A name has as many labels as it comes up. -/
theorem length_labelsOf (us : List Action.Unit) (name : String) :
    (labelsOf us name).length = (us.map Action.Unit.name).count name := by
  rw [labelsOf, List.length_map, List.count_eq_length_filter, List.filter_map, List.length_map]
  rfl

/-- **The collisions are the repeated names with the operations that have them.** -/
theorem collisions_eq (us : List Action.Unit) :
    collisions us = (repeatedNames us).map fun n => (n, labelsOf us n) := by
  rw [collisions, byName_eq, List.filter_map, repeatedNames]
  refine congrArg _ (List.filter_congr fun n _ => ?_)
  rw [Function.comp_apply, length_labelsOf]

/-- No name is repeated if and only if the names are distinct. -/
theorem repeatedNames_eq_nil_iff (us : List Action.Unit) :
    repeatedNames us = [] ↔ (us.map Action.Unit.name).Nodup := by
  rw [repeatedNames, List.filter_eq_nil_iff, List.nodup_iff_count_le_one]
  constructor
  · intro h name
    by_contra hcount
    have hmem : name ∈ us.map Action.Unit.name := List.count_pos_iff.mp (by omega)
    exact h name (List.mem_eraseDups.mpr hmem) (decide_eq_true (by omega))
  · intro h name _ hcount
    have := of_decide_eq_true hcount
    have := h name
    omega

end ServerActions.Generation
