import Mathlib.Data.List.TakeWhile
import ServerActions.Proofs.Reference.Chain
import ServerActions.Proofs.Reference.Memory

/-!
# Failures of references

A reference that cannot be followed is named in the failure, with two exceptions.  A step of digits
that denotes no number fails as such where a number is looked for, and so does the next reference of
a chain that is not written as one.

## Main definitions

* `Failure.IsReference` — a failure names a reference.
* `Stuck` — a pointer has a step of digits that denotes no number where a number is looked for.
* `Malformed` — what a reference points to is neither an object nor a reference.

## Main results

* `numeral_eq_error_iff` — when digits denote no number.
* `unnamed_iff` — **failures name a reference**, but for the two exceptions.
-/

namespace ServerActions

/-- A failure names a reference. -/
def Failure.IsReference (f : Failure) : Prop :=
  ∃ ref why, f = .reference ref why

theorem Failure.not_isReference_bare (c : Cause) : ¬ (Failure.bare c).IsReference := by
  rintro ⟨_, _, h⟩
  cases h

/-! ### Numerals -/

namespace Text

theorem decimalValue_eq_none_iff (cs : List Char) (n : ℕ) :
    decimalValue n cs = none ↔ ∃ c ∈ cs, decimal? c = none := by
  induction cs generalizing n with
  | nil => simp [decimalValue]
  | cons c cs ih =>
    rw [decimalValue]
    cases hc : decimal? c with
    | none => simp [hc]
    | some d => simp [hc, ih]

/-- **Digits denote no number if and only if one of them is not decimal or there are too many.** -/
theorem numeral_eq_error_iff (cs : List Char) : (∃ f, numeral cs = .error f) ↔
    (∃ c ∈ cs, decimal? c = none) ∨ maxNumeralDigits < cs.length := by
  have hvalue := decimalValue_eq_none_iff cs 0
  unfold numeral
  by_cases hall : ∃ c ∈ cs, decimal? c = none
  · refine iff_of_true ?_ (Or.inl hall)
    dsimp only
    split_ifs
    · exact ⟨_, rfl⟩
    · rw [hvalue.mpr hall]
      exact ⟨_, rfl⟩
  · -- Without a mistaken digit the whole numeral is measured, so only its length can be at fault.
    have hdigits : cs.takeWhile (fun c => (decimal? c).isSome) = cs := by
      refine List.takeWhile_eq_self_iff.mpr fun c hc => ?_
      exact Option.isSome_iff_ne_none.mpr fun h => hall ⟨c, hc, h⟩
    rw [hdigits]
    dsimp only
    split_ifs with hlong
    · exact iff_of_true ⟨_, rfl⟩ (Or.inr hlong)
    · cases hn : decimalValue 0 cs with
      | none => exact absurd (hvalue.mp hn) hall
      | some n =>
        refine iff_of_false ?_ (not_or.mpr ⟨hall, hlong⟩)
        rintro ⟨_, h⟩
        cases h

end Text

namespace Reference

open Description (Node OrReference referenceKey)
open Relation (ReflTransGen)

variable {α : Type} {root : Fields} {m : Model α}

/-! ### Pointers -/

/-- A number is looked for at a step: the step is no name of a mapping, or leads into a list. -/
def AsksNumber (step : String) (v : Value) : Prop :=
  (∃ fs, v.fields? = some fs ∧ fs.get? step = none) ∨
    v.fields? = none ∧ ∃ vs, v.listItems? = some vs

/-- A step of digits that denotes no number. -/
def Unreadable (step : String) : Prop :=
  Text.isDigits step.toList = true ∧
    ((∃ c ∈ step.toList, Text.decimal? c = none) ∨ Text.maxNumeralDigits < step.toList.length)

theorem indexOf?_eq_error_iff (step : String) :
    (∃ f, indexOf? step = .error f) ↔ Unreadable step := by
  rw [Unreadable, ← Text.numeral_eq_error_iff, indexOf?]
  split_ifs with hdigits
  · cases Text.numeral step.toList with
    | error f => exact iff_of_true ⟨f, rfl⟩ ⟨hdigits, f, rfl⟩
    | ok n => simp [Except.map]
  · simp [hdigits]

/-- A step fails if and only if it denotes no number where one is looked for. -/
theorem stepInto_eq_error_iff (step : String) (v : Value) :
    (∃ f, stepInto step v = .error f) ↔ AsksNumber step v ∧ Unreadable step := by
  have hmap : ∀ g : Option ℕ → Option Value,
      (∃ f, (indexOf? step).map g = .error f) ↔ Unreadable step := by
    intro g
    rw [← indexOf?_eq_error_iff]
    cases indexOf? step with
    | error f => exact iff_of_true ⟨f, rfl⟩ ⟨f, rfl⟩
    | ok n => simp [Except.map]
  unfold stepInto AsksNumber
  cases hfs : v.fields? with
  | some fs =>
    cases hget : fs.get? step with
    | some inner => simp [hget]
    | none => simpa [hget] using hmap _
  | none =>
    cases hvs : v.listItems? with
    | some vs => simpa using hmap _
    | none => simp

/-- A walk goes on from where its first steps lead. -/
theorem walk_append {ref walked : String} {v w : Value} {before : List String}
    (h : walk ref walked v before = .ok w) :
    ∃ walked', ∀ rest, walk ref walked v (before ++ rest) = walk ref walked' w rest := by
  induction before generalizing walked v with
  | nil =>
    cases h
    exact ⟨walked, fun _ => rfl⟩
  | cons s before ih =>
    rw [walk] at h
    split at h
    · cases h
    · cases h
    · next inner hinner =>
      obtain ⟨walked', hrest⟩ := ih h
      refine ⟨walked', fun rest => ?_⟩
      rw [List.cons_append, walk]
      simp only [hinner]
      exact hrest rest

/-- A walk fails at the first step that does not lead on; only there it can fail without naming the
reference. -/
theorem walk_eq_error {ref walked : String} {v : Value} {ss : List String} {f : Failure}
    (h : walk ref walked v ss = .error f) : f.IsReference ∨
      ∃ before step after w, ss = before ++ step :: after ∧ walk ref walked v before = .ok w ∧
        ∃ fault, stepInto step w = .error fault := by
  induction ss generalizing walked v with
  | nil => cases h
  | cons s ss ih =>
    rw [walk] at h
    split at h
    · next fault hfault => exact Or.inr ⟨[], s, ss, v, rfl, rfl, fault, hfault⟩
    · cases h
      exact Or.inl ⟨_, _, rfl⟩
    · next inner hinner =>
      rcases ih h with hnamed | ⟨before, step, after, w, heq, hwalk, hfault⟩
      · exact Or.inl hnamed
      · refine Or.inr ⟨s :: before, step, after, w, by rw [heq, List.cons_append], ?_, hfault⟩
        rw [walk]
        simp only [hinner]
        exact hwalk

/-- A pointer has a step of digits that denotes no number where a number is looked for. -/
def Stuck (root : Fields) (ref : String) : Prop :=
  startsWith "#/" ref = true ∧ ∃ before step after v,
    steps (ref.toList.drop 2) = before ++ step :: after ∧
      walk ref "#" (.map root) before = .ok v ∧ AsksNumber step v ∧ Unreadable step

/-- A pointer fails without naming the reference if and only if it is stuck. -/
theorem resolve_unnamed_iff (root : Fields) (ref : String) :
    (∃ f, resolve root ref = .error f ∧ ¬ f.IsReference) ↔ Stuck root ref := by
  by_cases hlocal : startsWith "#/" ref = true
  · rw [resolve_of_local hlocal, Stuck]
    constructor
    · rintro ⟨f, hf, hunnamed⟩
      obtain ⟨before, step, after, v, heq, hwalk, hfault⟩ :=
        (walk_eq_error hf).resolve_left hunnamed
      exact ⟨hlocal, before, step, after, v, heq, hwalk, (stepInto_eq_error_iff step v).mp hfault⟩
    · rintro ⟨-, before, step, after, v, heq, hwalk, hstep⟩
      obtain ⟨fault, hfault⟩ := (stepInto_eq_error_iff step v).mpr hstep
      obtain ⟨walked, hrest⟩ := walk_append hwalk
      refine ⟨.bare (.numeral fault), ?_, Failure.not_isReference_bare _⟩
      rw [heq, hrest, walk]
      simp only [hfault]
  · -- A reference that is not local is refused at once, by its name.
    refine iff_of_false ?_ fun h => hlocal h.1
    rintro ⟨f, hf, hunnamed⟩
    refine hunnamed ?_
    unfold resolve at hf
    split_ifs at hf with hexternal hstart
    · cases hf
      exact ⟨_, _, rfl⟩
    · cases hf
      exact ⟨_, _, rfl⟩
    · exact absurd (by simpa using hstart) hlocal

/-! ### Schemas -/

/-- Looking for a schema fails without naming the reference if and only if its pointer is stuck. -/
theorem target_unnamed_iff (root : Fields) (ref : String) :
    (∃ f, target root ref = .error f ∧ ¬ f.IsReference) ↔ Stuck root ref := by
  rw [← resolve_unnamed_iff, target_eq]
  cases resolve root ref with
  | error f => simp only [Except.error.injEq]
  | ok v =>
    refine iff_of_false ?_ (by rintro ⟨_, ⟨⟩, _⟩)
    rintro ⟨f, hf, hunnamed⟩
    refine hunnamed ?_
    dsimp only at hf
    split_ifs at hf
    · cases hread : Node.read v with
      | valid n =>
        rw [hread] at hf
        cases hf
      | invalid fs =>
        rw [hread] at hf
        cases hf
        exact ⟨_, _, rfl⟩
    · cases hf
      exact ⟨_, _, rfl⟩

/-! ### Objects -/

/-- What a reference points to is a mapping with the key of references that is no reference. -/
def Malformed (root : Fields) (ref : String) : Prop :=
  ∃ v fs faults, resolve root ref = .ok v ∧ v.fields? = some fs ∧ fs.has referenceKey = true ∧
    Description.Reference.model.ofFields fs = .invalid faults

/-- At a value a chain ends without naming a reference only if the value is a mapping that is no
reference although it has the key of references. -/
theorem malformed_of_hop {root : Fields} {m : Model α} {ref : String} {v : Value} {f : Failure}
    (hv : resolve root ref = .ok v) (hf : hop root m ref = .done (.error f))
    (hunnamed : ¬ f.IsReference) : Malformed root ref := by
  simp only [hop, hv] at hf
  cases hfs : v.fields? with
  | none =>
    rw [hfs] at hf
    cases hf
    exact absurd ⟨_, _, rfl⟩ hunnamed
  | some fs =>
    simp only [hfs] at hf
    split_ifs at hf with href
    · cases hr : Description.Reference.model.ofFields fs with
      | valid r =>
        rw [hr] at hf
        cases hf
      | invalid faults => exact ⟨v, fs, faults, hv, hfs, href, hr⟩
    · cases ha : m.ofFields fs with
      | valid a =>
        rw [ha] at hf
        cases hf
      | invalid faults =>
        -- The last object does not fit the model, and the failure names its reference.
        rw [ha] at hf
        cases hf
        exact absurd ⟨_, _, rfl⟩ hunnamed

/-- A chain ends without naming a reference if and only if its last reference is stuck or
malformed. -/
theorem hop_unnamed_iff (root : Fields) (m : Model α) (ref : String) :
    (∃ f, hop root m ref = .done (.error f) ∧ ¬ f.IsReference) ↔
      Stuck root ref ∨ Malformed root ref := by
  rw [← resolve_unnamed_iff]
  -- Without a target the pointer itself failed; with one, the reference there could not be read.
  cases hresolve : resolve root ref with
  | error f =>
    have hhop : hop root m ref = .done (.error f) := by simp only [hop, hresolve]
    constructor
    · rintro ⟨f', hf, hunnamed⟩
      cases hhop.symm.trans hf
      exact Or.inl ⟨f, rfl, hunnamed⟩
    · rintro (⟨f', hf, hunnamed⟩ | ⟨_, _, _, hok, -⟩)
      · cases hf
        exact ⟨f, hhop, hunnamed⟩
      · cases hresolve.symm.trans hok
  | ok v =>
    constructor
    · rintro ⟨f, hf, hunnamed⟩
      exact Or.inr (malformed_of_hop hresolve hf hunnamed)
    · rintro (⟨f, hf, -⟩ | ⟨w, fs, faults, hw, hfs, href, hr⟩)
      · cases hf
      · cases hresolve.symm.trans hw
        refine ⟨.bare (.faults faults), ?_, Failure.not_isReference_bare _⟩
        simp only [hop, hresolve, hfs, href, hr, if_true]

/-- Following references fails without naming one if and only if the chain ends at a reference that
is stuck or malformed. -/
theorem object_unnamed_iff (root : Fields) (m : Model α) (given : OrReference α) :
    (∃ f, object root m given = .error f ∧ ¬ f.IsReference) ↔
      ∃ r last, given = .reference r ∧ ReflTransGen (Leads root) r.target last ∧
        (Stuck root last ∨ Malformed root last) := by
  cases given with
  | object a => exact iff_of_false (by rintro ⟨_, ⟨⟩, _⟩) (by rintro ⟨_, _, ⟨⟩, _⟩)
  | reference r =>
    constructor
    · -- The failure of a chain that comes back is named, so the chain came to its end.
      rintro ⟨f, hf, hunnamed⟩
      rcases ((object_eq_iff r _).mp hf).cases_end with ⟨seen, ref, hback⟩ | ⟨last, hlast, hdone⟩
      · cases hback
        exact absurd ⟨_, _, rfl⟩ hunnamed
      · exact ⟨r, last, rfl, hlast, (hop_unnamed_iff root m last).mp ⟨f, hdone, hunnamed⟩⟩
    · rintro ⟨r', last, heq, hlast, hend⟩
      cases heq
      obtain ⟨f, hdone, hunnamed⟩ := (hop_unnamed_iff root m last).mpr hend
      exact ⟨f, (object_eq_iff r _).mpr (follows_of_leads hlast hdone), hunnamed⟩

/-- **Failures name a reference**, but for two exceptions.  A pointer is followed, and the schema at
its end is looked up in any session, without such a failure if and only if the pointer is not stuck;
a chain of references is, if and only if it does not end at a reference that is stuck or
malformed. -/
theorem unnamed_iff (root : Fields) :
    (∀ ref, (∃ f, resolve root ref = .error f ∧ ¬ f.IsReference) ↔ Stuck root ref) ∧
      (∀ ref s, Sound root s →
        ((∃ f, (schema root ref s).1 = .error f ∧ ¬ f.IsReference) ↔ Stuck root ref)) ∧
      ∀ (α : Type) (m : Model α) (given : OrReference α),
        (∃ f, object root m given = .error f ∧ ¬ f.IsReference) ↔
          ∃ r last, given = .reference r ∧ ReflTransGen (Leads root) r.target last ∧
            (Stuck root last ∨ Malformed root last) := by
  refine ⟨resolve_unnamed_iff root, fun ref s hs => ?_, fun α => object_unnamed_iff root⟩
  have hschema : (schema root ref s).1 = target root ref := congrFun hs.faithful ref
  rw [hschema, target_unnamed_iff]

/-! ### Failures that name no reference -/

/-- A description with a text under the key of references that is none. -/
def mistaken : Fields :=
  [(.str "paths", .map []), (.str "x-limits", .map [(.str "$ref", .int 5)])]

/-- A superscript is a digit that denotes no number, and the key of references is that of a
number. -/
theorem mistaken_unnamed :
    (∃ doc, Description.Document.model.ofFields mistaken = .valid doc) ∧
      ¬ (∀ ref f, resolve mistaken ref = .error f → f.IsReference) ∧
      ¬ (∀ ref f, (schema mistaken ref .fresh).1 = .error f → f.IsReference) ∧
      ¬ (∀ given f, object mistaken Description.Parameter.model given = .error f →
        f.IsReference) := by
  refine ⟨⟨_, rfl⟩, fun h => ?_, fun h => ?_, fun h => ?_⟩
  · exact Failure.not_isReference_bare _ (h "#/paths/²" _ rfl)
  · exact Failure.not_isReference_bare _ (h "#/paths/²" _ rfl)
  · exact Failure.not_isReference_bare _ (h (.reference ⟨"#/x-limits", []⟩) _ rfl)

end Reference

end ServerActions
