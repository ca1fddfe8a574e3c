import Mathlib.Data.List.Induction
import ServerActions.Output.Emitter
import ServerActions.Proofs.Entries

/-!
# Modules in memory

Modules that are put one after the other are kept under their file names, where the last one of a
name stays.  A name keeps its place in the order of the entries, so putting the same modules once
more changes nothing, also where one of them replaces another.

## Main definitions

* `putAll` — the entries after several sources were put under their file names.

## Main results

* `emitAll_inMemory` — modules put in memory are entries that are put.
* `lookup_putAll` — under a file name stands the last source that was put there, or the old one.
* `putAll_putAll` — what was put already changes nothing when it is put again.
-/

namespace ServerActions.Output

variable {file other source old : String} {es : List (String × String)}

/-! ### One source -/

theorem putModule_eq_putBy (file source : String) (es : List (String × String)) :
    putModule file source es = putBy (fun k k' => decide (k = k')) (file, source) es := by
  induction es with
  | nil => rfl
  | cons e es ih =>
    obtain ⟨f, old⟩ := e
    by_cases h : f = file
    · simp only [putModule, putBy, h, decide_true, if_true]
    · simp only [putModule, putBy, h, decide_false, if_false, Bool.false_eq_true, ih]

/-- Under its file name a source is found, and under the other names what was found before. -/
theorem lookup_putModule (file source other : String) (es : List (String × String)) :
    (putModule file source es).lookup other
      = if other = file then some source else es.lookup other := by
  rw [putModule_eq_putBy, lookup_putBy]

/-- A source that is there already changes nothing. -/
theorem putModule_of_lookup (h : es.lookup file = some source) :
    putModule file source es = es := by
  induction es with
  | nil => cases h
  | cons e es ih =>
    obtain ⟨f, old⟩ := e
    rw [putModule]
    split_ifs with hf
    · rw [hf, List.lookup_cons_self] at h
      rw [Option.some.inj h]
    · rw [List.lookup_cons, beq_false_of_ne (Ne.symm hf)] at h
      rw [ih h]

/-- A source takes the place of the one that was put before it. -/
theorem putModule_putModule (file source old : String) (es : List (String × String)) :
    putModule file source (putModule file old es) = putModule file source es := by
  induction es with
  | nil => simp only [putModule, if_true]
  | cons e es ih =>
    obtain ⟨f, s⟩ := e
    by_cases hf : f = file
    · simp only [putModule, hf, if_true]
    · simp only [putModule, hf, if_false, ih]

/-- A file name is not lost. -/
theorem mem_keys_putModule (h : file ∈ es.map Prod.fst) :
    file ∈ (putModule other source es).map Prod.fst := by
  rw [putModule_eq_putBy, map_fst_putBy_eq]
  split_ifs
  · exact h
  · exact List.mem_append_left _ h

/-- Under a file name that has a place already, a source can as well be put later. -/
theorem putModule_comm {s t : String} (hne : other ≠ file) (hfile : file ∈ es.map Prod.fst) :
    putModule other t (putModule file s es) = putModule file s (putModule other t es) := by
  induction es with
  | nil => cases hfile
  | cons e es ih =>
    obtain ⟨f, old⟩ := e
    by_cases hf : f = file
    · simp only [putModule, hf, hne.symm, if_true, if_false]
    · have hrest : file ∈ es.map Prod.fst := by simpa [Ne.symm hf] using hfile
      by_cases ho : f = other
      · simp only [putModule, ho, hne, if_true, if_false]
      · simp only [putModule, hf, ho, if_false, ih hrest]

/-! ### Several sources -/

/-- The entries after sources were put under their file names, one after the other. -/
def putAll (es ps : List (String × String)) : List (String × String) :=
  ps.foldl (fun es p => putModule p.1 p.2 es) es

/-- Modules put in memory are entries that are put, under the file names of the modules. -/
theorem emitAll_inMemory (m : Modules) (ps : List (String × String)) :
    emitAll inMemory m ps
      = ⟨.ok (ps.map fun p => m.fileName p.1),
          { m with entries := putAll m.entries (ps.map fun p => (m.fileName p.1, p.2)) }, []⟩ := by
  induction ps generalizing m with
  | nil => rfl
  | cons p ps ih =>
    obtain ⟨name, source⟩ := p
    rw [emitAll]
    simp only [inMemory]
    rw [ih]
    rfl

theorem putAll_eq_putEach (es ps : List (String × String)) : putAll es ps = putEach es ps := by
  rw [putAll, putEach]
  exact congrFun (congrArg (fun put => List.foldl put es)
    (funext fun es => funext fun p => putModule_eq_putBy p.1 p.2 es)) ps

/-- Under a file name stands the last of the sources that were put there, or what stood there
before. -/
theorem lookup_putAll (ps es : List (String × String)) (file : String) :
    (putAll es ps).lookup file
      = ((ps.filter (·.1 = file)).getLast?.map Prod.snd).or (es.lookup file) := by
  rw [putAll_eq_putEach, lookup_putEach]

/-- A source under a name that has a place already does not matter when another one is put there
later. -/
theorem putAll_putModule {ps : List (String × String)} (hfile : file ∈ es.map Prod.fst)
    (hlater : file ∈ ps.map Prod.fst) : putAll (putModule file source es) ps = putAll es ps := by
  induction ps generalizing es with
  | nil => cases hlater
  | cons p ps ih =>
    obtain ⟨f, s⟩ := p
    simp only [putAll, List.foldl_cons] at ih ⊢
    by_cases hf : f = file
    · rw [hf, putModule_putModule]
    · have hrest : file ∈ ps.map Prod.fst := by simpa [Ne.symm hf] using hlater
      rw [putModule_comm hf hfile]
      exact ih (mem_keys_putModule hfile) hrest

/-- **What was put already changes nothing when it is put again.** -/
theorem putAll_putAll (es ps : List (String × String)) :
    putAll (putAll es ps) ps = putAll es ps := by
  induction ps generalizing es with
  | nil => rfl
  | cons p ps ih =>
    obtain ⟨f, s⟩ := p
    change putAll (putModule f s (putAll (putModule f s es) ps)) ps = putAll (putModule f s es) ps
    have hfound := lookup_putAll ps (putModule f s es) f
    rw [lookup_putModule, if_pos rfl] at hfound
    -- Either a later source goes under the same name, or the first one is there still.
    by_cases hlater : f ∈ ps.map Prod.fst
    · have hkey : f ∈ (putAll (putModule f s es) ps).map Prod.fst := by
        obtain ⟨last, hlast⟩ : ∃ last, (putAll (putModule f s es) ps).lookup f = some last := by
          rw [hfound]
          cases ((ps.filter (·.1 = f)).getLast?.map Prod.snd) with
          | none => exact ⟨s, rfl⟩
          | some last => exact ⟨last, rfl⟩
        exact List.mem_map.mpr ⟨_, mem_of_lookup hlast, rfl⟩
      rw [putAll_putModule hkey hlater, ih]
    · have hnone : ps.filter (·.1 = f) = [] := List.filter_eq_nil_iff.mpr fun p hp hpf =>
        hlater (List.mem_map.mpr ⟨p, hp, of_decide_eq_true hpf⟩)
      rw [hnone, List.getLast?_nil, Option.map_none, Option.none_or] at hfound
      rw [putModule_of_lookup hfound, ih]

end ServerActions.Output
