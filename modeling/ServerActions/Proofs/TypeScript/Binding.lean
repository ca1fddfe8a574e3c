import Mathlib.Data.List.Nodup
import ServerActions.Action.Call
import ServerActions.Proofs.TypeScript.Identifier

/-!
# The names of path parameters

Each path parameter is declared under a name of its own.  That is its name made fit to be declared,
after as many underscores as it takes to differ from the names of the parameters before it; a name
that can be declared and is not taken stays as it is.  Neither making a name fit nor an underscore
in front of it ever makes a name that cannot be declared: a reserved word has small letters only,
and what is put in front is no digit.

As everywhere else a line feed at the end of a name is let pass.

## Main results

* `isBinding_bindingChars` — a name made fit can be declared.
* `isBinding_underscored` — so can a name after underscores.
* `getElem?_bindings` — a parameter's name is told apart from those before it.
* `pathBindings_distinct` — **path parameters are declared under distinct names**, each as close to
  its parameter's own as it can be.
-/

namespace ServerActions.TypeScript

variable {name : String} {cs : List Char}

/-! ### Names that can be declared -/

/-- A name goes on with any character of names. -/
theorem isNameTail_cons {c : Char} (hc : isNameChar c = true) (h : isNameTail cs = true) :
    isNameTail (c :: cs) = true := by
  obtain ⟨ds, hds, hcs⟩ := isNameTail_iff.mp h
  refine isNameTail_iff.mpr ⟨c :: ds, List.forall_mem_cons.mpr ⟨hc, hds⟩, ?_⟩
  exact hcs.imp (congrArg (c :: ·)) (congrArg (c :: ·))

theorem isNameTail_of_forall (h : ∀ c ∈ cs, isNameChar c = true) : isNameTail cs = true :=
  isNameTail_iff.mpr ⟨cs, h, Or.inl rfl⟩

/-- An identifier can go on a name as well as begin one. -/
theorem isNameTail_of_isIdentifier (h : isIdentifier cs = true) : isNameTail cs = true := by
  cases cs with
  | nil => cases h
  | cons c cs =>
    obtain ⟨hc, hcs⟩ := Bool.and_eq_true_iff.mp h
    exact isNameTail_cons (isNameStart_iff.mp hc).1 hcs

/-- After an underscore whatever goes on a name can be declared, for no reserved word has one. -/
theorem isBinding_cons_underscore (h : isNameTail cs = true) : isBinding ('_' :: cs) = true := by
  have hident : isIdentifier ('_' :: cs) = true := by
    rw [isIdentifier, h, Bool.and_true]
    decide
  have hfree : isReserved ('_' :: cs) = false :=
    isReserved_eq_false (List.mem_cons_self ..) (by decide)
  rw [isBinding, hident, hfree]
  rfl

/-- What a name is folded to goes on a name. -/
theorem isNameTail_folded (name : List Char) : isNameTail (folded name) = true := by
  unfold folded
  split
  · next hident => exact isNameTail_of_isIdentifier hident
  · exact isNameTail_of_forall fun c hc =>
      isNameChar_of_isWordChar (isWordChar_of_mem_words name c hc)

/-- **A name made fit can be declared.** -/
theorem isBinding_bindingChars (name : List Char) : isBinding (bindingChars name) = true := by
  rcases bindingChars_cases name with ⟨hname, heq⟩ | heq | ⟨c, cs, hfold, hdigit, hfree, heq⟩
  · rwa [heq]
  · rw [heq]
    exact isBinding_cons_underscore (isNameTail_folded name)
  · rw [heq, isBinding, hfree, Bool.not_false, Bool.and_true, hfold]
    by_cases hident : isIdentifier name = true
    · -- An identifier is folded to itself.
      have hself : folded name = name := if_pos hident
      rw [← hfold, hself]
      exact hident
    · have hwords : ∀ d ∈ folded name, isWordChar d = true := by
        unfold folded
        rw [if_neg hident]
        exact isWordChar_of_mem_words name
      rw [hfold] at hwords
      obtain ⟨hc, hcs⟩ := List.forall_mem_cons.mp hwords
      have hstart : isNameStart c = true :=
        isNameStart_iff.mpr ⟨isNameChar_of_isWordChar hc, hdigit⟩
      rw [isIdentifier, hstart, Bool.true_and]
      exact isNameTail_of_forall fun d hd => isNameChar_of_isWordChar (hcs d hd)

/-- **After any number of underscores a name can still be declared.** -/
theorem isBinding_underscored (h : isBinding name.toList = true) (k : ℕ) :
    isBinding (underscored k name).toList = true := by
  induction k generalizing name with
  | zero => rwa [underscored_zero]
  | succ k ih =>
    rw [underscored_succ]
    refine ih ?_
    have htail : isNameTail name.toList = true :=
      isNameTail_of_isIdentifier (Bool.and_eq_true_iff.mp h).1
    rw [String.toList_append]
    exact isBinding_cons_underscore htail

theorem isBinding_of_mem_bindings {names : List String} {b : String} (h : b ∈ bindings names) :
    isBinding b.toList = true := by
  obtain ⟨name, -, k, rfl⟩ := exists_of_mem_bindings h
  refine isBinding_underscored ?_ k
  rw [bindingName, String.toList_ofList]
  exact isBinding_bindingChars name.toList

/-- A name that can be declared is made fit by leaving it as it is. -/
theorem bindingName_of_isBinding (h : isBinding name.toList = true) : bindingName name = name := by
  rw [bindingName, bindingChars, if_pos h, String.ofList_toList]

/-! ### One name after the other -/

theorem getElem?_bindingsAfter (names : List String) : ∀ (taken : List String) (i : ℕ),
    (bindingsAfter taken names)[i]? = names[i]?.map fun name =>
      fresh (taken ++ (bindingsAfter taken names).take i) (bindingName name) := by
  induction names with
  | nil => simp [bindingsAfter]
  | cons name names ih =>
    intro taken i
    rw [bindingsAfter]
    cases i with
    | zero => simp
    | succ i =>
      -- The first name is taken from now on, and stands first among the names before.
      simpa using ih (taken ++ [fresh taken (bindingName name)]) i

/-- **A parameter's name is told apart from the names before it.** -/
theorem getElem?_bindings (names : List String) (i : ℕ) :
    (bindings names)[i]? = names[i]?.map fun name =>
      fresh ((bindings names).take i) (bindingName name) := by
  simpa [bindings] using getElem?_bindingsAfter names [] i

end ServerActions.TypeScript

namespace ServerActions.Action

open TypeScript

/-- **Path parameters are declared under distinct names** that can be declared, one for each in
their order.  The name of a parameter is its own made fit, after the least number of underscores for
which it is none of the names before it, and these are no more than there are parameters before.  It
is the parameter's own if and only if that can be declared and is not taken. -/
theorem pathBindings_distinct (ps : List Parameter) :
    (pathBindings ps).length = ps.length ∧ (pathBindings ps).Nodup ∧
      (∀ b ∈ pathBindings ps, isBinding b.toList = true) ∧
      ∀ (i : ℕ) (p : Parameter) (b : String), ps[i]? = some p → (pathBindings ps)[i]? = some b →
        (∃ k ≤ i, b = underscored k (bindingName p.name) ∧
          (∀ j < k, underscored j (bindingName p.name) ∈ (pathBindings ps).take i) ∧
          b ∉ (pathBindings ps).take i) ∧
        (b = p.name ↔ isBinding p.name.toList = true ∧ p.name ∉ (pathBindings ps).take i) := by
  have hlegal : ∀ b ∈ pathBindings ps, isBinding b.toList = true := fun b hb =>
    isBinding_of_mem_bindings hb
  refine ⟨?_, nodup_bindings _, hlegal, fun i p b hp hb => ?_⟩
  · rw [pathBindings, bindings, length_bindingsAfter, List.length_map]
  · -- Each name is the first that is fresh after those before it, which gives all that is said of
    -- it.
    have hfresh : b = fresh ((pathBindings ps).take i) (bindingName p.name) := by
      have hget := getElem?_bindings (ps.map Parameter.name) i
      rw [List.getElem?_map, hp] at hget
      exact Option.some.inj (hb.symm.trans hget)
    have hnot : b ∉ (pathBindings ps).take i := by
      rw [hfresh]
      exact fresh_not_mem _ _
    obtain ⟨k, hk, heq, htaken⟩ := exists_fresh_eq ((pathBindings ps).take i) (bindingName p.name)
    have hlength : ((pathBindings ps).take i).length ≤ i := List.length_take_le ..
    refine ⟨⟨k, Nat.le_trans hk hlength, hfresh.trans heq, htaken, hnot⟩, ?_⟩
    constructor
    · intro hown
      rw [← hown]
      exact ⟨hlegal b (List.mem_of_getElem? hb), hnot⟩
    · rintro ⟨hown, hfree⟩
      rw [hfresh, bindingName_of_isBinding hown, fresh_of_not_mem hfree]

/-- Path parameters with the names given. -/
def named (names : List String) : List Parameter :=
  names.map fun name => ⟨name, .path, true, .any, none⟩

/-- A name is taken twice before it is told apart, and others are made fit. -/
theorem pathBindings_distinct_repeated :
    let ps := named ["id", "id", "_id", "package", "", "1st"]
    pathBindings ps = ["id", "_id", "__id", "_package", "_", "_1st"] ∧
      (∃ k ≤ 2, "__id" = underscored k "_id" ∧
        (∀ j < k, underscored j "_id" ∈ (pathBindings ps).take 2) ∧
        "__id" ∉ (pathBindings ps).take 2) ∧
      ("__id" = "_id" ↔
        isBinding "_id".toList = true ∧ "_id" ∉ (pathBindings ps).take 2) := by
  intro ps
  have hbound : pathBindings ps = ["id", "_id", "__id", "_package", "_", "_1st"] := by decide
  refine ⟨hbound, ?_⟩
  exact (pathBindings_distinct ps).2.2.2 2 ⟨"_id", .path, true, .any, none⟩ "__id" rfl
    (by rw [hbound]; rfl)

end ServerActions.Action
