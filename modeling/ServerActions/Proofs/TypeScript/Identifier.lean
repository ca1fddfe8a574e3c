import Mathlib.Data.List.Nodup
import Mathlib.Data.List.Perm.Subperm
import ServerActions.TypeScript.Identifier

/-!
# Names that can be declared

A name can be declared when it is made of letters, digits, underscores and dollar signs, does not
begin with a digit and is no reserved word.  The names of operations that declare none are such, and
so are the names under which parameters are declared; the latter are told apart by underscores in
front, which never make a name reserved.

## Main definitions

* `IsLegal` — a text can be declared as a name.
* `underscored` — a name after a number of underscores.

## Main results

* `isLegal_bindingChars` — a parameter can be declared under its name made fit for it.
* `isLegal_camelFold` — a name that can be declared still can in camel case.
* `isLegal_camelFold_words` — the name made from small letters and the words of a path can be
  declared.
* `fresh_not_mem` — a name told apart from those taken is not one of them.
* `nodup_bindings` — the names of parameters are distinct.
* `mem_bindings_iff` — a name that does not begin with an underscore is declared if and only if a
  parameter's own name is made into it.
-/

namespace ServerActions.TypeScript

/-- A text can be declared as a name. -/
structure IsLegal (cs : List Char) : Prop where
  start : ∃ c rest, cs = c :: rest ∧ isNameStart c = true
  chars : ∀ c ∈ cs, isNameChar c = true
  free : isReserved cs = false

/-! ### Characters -/

/-- The small letters are twenty-six characters, so that what holds of them can be tried out. -/
theorem exists_of_isLower {c : Char} (h : c.isLower = true) :
    ∃ n : Fin 26, c = Char.ofNat ('a'.toNat + n) := by
  obtain ⟨hlo, hhi⟩ := Bool.and_eq_true_iff.mp h
  have hlo : 97 ≤ c.toNat := UInt32.le_iff_toNat_le.mp (of_decide_eq_true hlo)
  have hhi : c.toNat ≤ 122 := UInt32.le_iff_toNat_le.mp (of_decide_eq_true hhi)
  refine ⟨⟨c.toNat - 97, by omega⟩, ?_⟩
  have heq : 'a'.toNat + (c.toNat - 97) = c.toNat := by
    change 97 + (c.toNat - 97) = c.toNat
    omega
  rw [heq, Char.ofNat_toNat]

theorem isAlpha_of_isLower {c : Char} (h : c.isLower = true) : c.isAlpha = true :=
  Bool.or_eq_true_iff.mpr (Or.inr h)

theorem isUpper_toUpper {c : Char} (h : c.isLower = true) : c.toUpper.isUpper = true := by
  obtain ⟨n, rfl⟩ := exists_of_isLower h
  revert n
  decide

theorem isAlpha_toUpper {c : Char} (h : c.isLower = true) : c.toUpper.isAlpha = true :=
  Bool.or_eq_true_iff.mpr (Or.inl (isUpper_toUpper h))

theorem isLower_toUpper {c : Char} (h : c.isLower = true) : c.toUpper.isLower = false := by
  obtain ⟨n, rfl⟩ := exists_of_isLower h
  revert n
  decide

theorem isDigit_eq_false_of_isAlpha {c : Char} (h : c.isAlpha = true) : c.isDigit = false := by
  rw [← Bool.not_eq_true, Char.isDigit_iff_toNat]
  rintro ⟨-, hdigit⟩
  have hdigit : c.toNat ≤ 57 := hdigit
  have hletter : 65 ≤ c.toNat := by
    rcases Bool.or_eq_true_iff.mp h with h | h
    · exact UInt32.le_iff_toNat_le.mp (of_decide_eq_true h).1
    · obtain ⟨n, rfl⟩ := exists_of_isLower h
      revert n
      decide
  omega

/-- A name begins with one of the characters of names that is no digit. -/
theorem isNameStart_iff {c : Char} :
    isNameStart c = true ↔ isNameChar c = true ∧ c.isDigit = false := by
  simp only [isNameStart, isNameChar, Char.isAlphanum, Bool.or_eq_true, decide_eq_true_eq]
  constructor
  · rintro ((h | rfl) | rfl)
    · exact ⟨Or.inl (Or.inl (Or.inl h)), isDigit_eq_false_of_isAlpha h⟩
    · decide
    · decide
  · rintro ⟨((h | h) | h) | h, hdigit⟩
    · exact Or.inl (Or.inl h)
    · rw [h] at hdigit
      cases hdigit
    · exact Or.inl (Or.inr h)
    · exact Or.inr h

theorem isNameChar_of_isWordChar {c : Char} (h : isWordChar c = true) : isNameChar c = true := by
  simp only [isWordChar, isNameChar, Bool.or_eq_true] at h ⊢
  exact Or.inl h

theorem isNameChar_underscore : isNameChar '_' = true := by decide

/-- The reserved words are made of small letters. -/
theorem isLower_of_isReserved {cs : List Char} (h : isReserved cs = true) :
    ∀ c ∈ cs, c.isLower = true := by
  obtain ⟨w, hw, hcs⟩ := List.any_eq_true.mp h
  have hall : ∀ w ∈ reservedWords, w.toList.all Char.isLower = true := by decide
  rw [← of_decide_eq_true hcs]
  exact List.all_eq_true.mp (hall w hw)

/-- A text with a character that is no small letter is not reserved. -/
theorem isReserved_eq_false {cs : List Char} {c : Char} (hc : c ∈ cs) (h : c.isLower = false) :
    isReserved cs = false := by
  cases hres : isReserved cs with
  | false => rfl
  | true =>
    rw [isLower_of_isReserved hres c hc] at h
    cases h

/-- An underscore makes a name of any characters of names. -/
theorem isLegal_cons_underscore {cs : List Char} (h : ∀ c ∈ cs, isNameChar c = true) :
    IsLegal ('_' :: cs) where
  start := ⟨'_', cs, rfl, by decide⟩
  chars := List.forall_mem_cons.mpr ⟨isNameChar_underscore, h⟩
  free := isReserved_eq_false (List.mem_cons_self ..) (by decide)

/-! ### Identifiers -/

/-- **What goes on as a name consists of characters of names**; one line feed at its end is let
pass. -/
theorem isNameTail_iff {cs : List Char} : isNameTail cs = true ↔
    ∃ ds, (∀ d ∈ ds, isNameChar d = true) ∧ (cs = ds ∨ cs = ds ++ ['\n']) := by
  fun_induction isNameTail cs with
  | case1 => exact iff_of_true rfl ⟨[], by simp, Or.inl rfl⟩
  | case2 => exact iff_of_true rfl ⟨[], by simp, Or.inr rfl⟩
  | case3 c cs hfeed ih =>
    rw [Bool.and_eq_true, ih]
    constructor
    · rintro ⟨hc, ds, hds, hcs⟩
      refine ⟨c :: ds, List.forall_mem_cons.mpr ⟨hc, hds⟩, ?_⟩
      exact hcs.imp (congrArg (c :: ·)) (congrArg (c :: ·))
    · rintro ⟨ds, hds, hcs⟩
      cases ds with
      | nil =>
        -- Without further characters there is only the line feed, which was the case before.
        rcases hcs with hcs | hcs
        · cases hcs
        · obtain ⟨rfl, rfl⟩ := List.cons.inj hcs
          exact absurd rfl (hfeed rfl)
      | cons d ds =>
        obtain ⟨hd, hrest⟩ := List.forall_mem_cons.mp hds
        rcases hcs with hcs | hcs
        · obtain ⟨rfl, rfl⟩ := List.cons.inj hcs
          exact ⟨hd, cs, hrest, Or.inl rfl⟩
        · obtain ⟨rfl, rfl⟩ := List.cons.inj hcs
          exact ⟨hd, ds, hrest, Or.inr rfl⟩

theorem isNameChar_of_isNameTail {cs : List Char} (h : isNameTail cs = true) :
    ∀ c ∈ cs, isNameChar c = true ∨ (c = '\n' ∧ cs.getLast? = some '\n') := by
  obtain ⟨ds, hds, rfl | rfl⟩ := isNameTail_iff.mp h
  · exact fun c hc => Or.inl (hds c hc)
  · intro c hc
    rcases List.mem_append.mp hc with hc | hc
    · exact Or.inl (hds c hc)
    · exact Or.inr ⟨List.mem_singleton.mp hc, List.getLast?_concat⟩

/-- So does an identifier consist of characters of names. -/
theorem isNameChar_of_isIdentifier {cs : List Char} (h : isIdentifier cs = true) :
    ∀ c ∈ cs, isNameChar c = true ∨ (c = '\n' ∧ cs.getLast? = some '\n') := by
  cases cs with
  | nil => cases h
  | cons c cs =>
    obtain ⟨hc, hcs⟩ := Bool.and_eq_true_iff.mp h
    refine List.forall_mem_cons.mpr ⟨Or.inl (isNameStart_iff.mp hc).1, fun d hd => ?_⟩
    refine (isNameChar_of_isNameTail hcs d hd).imp_right fun ⟨hd, hlast⟩ => ⟨hd, ?_⟩
    rw [List.getLast?_cons, hlast, Option.getD_some]

/-! ### Words in camel case -/

/-- Between words there is one underscore. -/
theorem isWordChar_of_mem_joinWordsFrom {cs : List Char} :
    ∀ {inRun : Bool}, ∀ c ∈ joinWordsFrom inRun cs, isWordChar c = true := by
  induction cs with
  | nil => simp [joinWordsFrom]
  | cons c cs ih =>
    intro inRun
    rw [joinWordsFrom]
    split
    · next hc => exact List.forall_mem_cons.mpr ⟨hc, ih⟩
    · split
      · exact ih
      · exact List.forall_mem_cons.mpr ⟨by decide, ih⟩

/-- A capital is a character of words. -/
theorem isWordChar_toUpper {c : Char} (h : c.isLower = true) : isWordChar c.toUpper = true := by
  rw [isWordChar, Char.isAlphanum, isAlpha_toUpper h, Bool.true_or, Bool.true_or]

/-- Camel case keeps to the characters of a text and the capitals of its small letters. -/
theorem forall_mem_camelFold {P : Char → Prop} (hupper : ∀ c : Char, c.isLower = true → P c.toUpper)
    {cs : List Char} (h : ∀ c ∈ cs, P c) : ∀ c ∈ camelFold cs, P c := by
  fun_induction camelFold cs with
  | case1 => simp
  | case2 c => exact h
  | case3 c d cs hfold ih =>
    obtain ⟨-, -, hcs⟩ := List.forall_mem_cons.mp h |>.imp_right List.forall_mem_cons.mp
    exact List.forall_mem_cons.mpr ⟨hupper d hfold.2, ih hcs⟩
  | case4 c d cs hfold ih =>
    obtain ⟨hc, hcs⟩ := List.forall_mem_cons.mp h
    exact List.forall_mem_cons.mpr ⟨hc, ih hcs⟩

/-- Words in camel case have only characters of words. -/
theorem isWordChar_of_mem_words (cs : List Char) :
    ∀ c ∈ camelFold (joinWords cs), isWordChar c = true :=
  forall_mem_camelFold (fun _ => isWordChar_toUpper) fun c hc =>
    isWordChar_of_mem_joinWordsFrom c hc

theorem camelFold_cons_of_ne {c : Char} (hc : c ≠ '_') (cs : List Char) :
    camelFold (c :: cs) = c :: camelFold cs := by
  cases cs with
  | nil => rfl
  | cons d cs => rw [camelFold, if_neg fun h => hc h.1]

/-- What stands before the first underscore stays as it is. -/
theorem camelFold_append {before : List Char} (h : ∀ c ∈ before, c ≠ '_') (cs : List Char) :
    camelFold (before ++ cs) = before ++ camelFold cs := by
  induction before with
  | nil => rfl
  | cons c before ih =>
    obtain ⟨hc, hbefore⟩ := List.forall_mem_cons.mp h
    rw [List.cons_append, camelFold_cons_of_ne hc, ih hbefore, List.cons_append]

/-- An underscore in front stays, or makes way for a capital. -/
theorem camelFold_cons_underscore (cs : List Char) :
    ∃ c rest, camelFold ('_' :: cs) = c :: rest ∧ c.isLower = false := by
  cases cs with
  | nil => exact ⟨'_', [], rfl, by decide⟩
  | cons d cs =>
    rw [camelFold]
    split
    · next hfold => exact ⟨d.toUpper, camelFold cs, rfl, isLower_toUpper hfold.2⟩
    · exact ⟨'_', _, rfl, by decide⟩

/-- The name made from small letters and the words of a path is these letters, then a character of
words that is no small letter, and more characters of words. -/
theorem exists_camelFold_eq {letters path : List Char} (hletters : ∀ c ∈ letters, c.isLower = true)
    (hpath : path.head? = some '/') :
    ∃ c rest, camelFold (letters ++ joinWords path) = letters ++ c :: rest ∧ c.isLower = false ∧
      ∀ d ∈ c :: rest, isWordChar d = true := by
  obtain ⟨path, rfl⟩ : ∃ cs, path = '/' :: cs := by
    cases path with
    | nil => cases hpath
    | cons c cs => exact ⟨cs, by rw [Option.some.inj hpath]⟩
  -- The path begins with a slash, so that the words begin with an underscore after the letters.
  have hwords : joinWords ('/' :: path) = '_' :: joinWordsFrom true path := rfl
  have hne : ∀ c ∈ letters, c ≠ '_' := by
    rintro c hc rfl
    exact absurd (hletters _ hc) (by decide)
  obtain ⟨c, rest, heq, hc⟩ := camelFold_cons_underscore (joinWordsFrom true path)
  refine ⟨c, rest, by rw [hwords, camelFold_append hne, heq], hc, ?_⟩
  rw [← heq, ← hwords]
  exact isWordChar_of_mem_words ('/' :: path)

/-- **The name made from small letters and the words of a path can be declared.** -/
theorem isLegal_camelFold_words {letters path : List Char} (hne : letters ≠ [])
    (hletters : ∀ c ∈ letters, c.isLower = true) (hpath : path.head? = some '/') :
    IsLegal (camelFold (letters ++ joinWords path)) := by
  obtain ⟨c, rest, heq, hc, hwords⟩ := exists_camelFold_eq hletters hpath
  have halpha : ∀ d ∈ letters, d.isAlpha = true := fun d hd => isAlpha_of_isLower (hletters d hd)
  rw [heq]
  refine ⟨?_, fun d hd => ?_, isReserved_eq_false (c := c) (by simp) hc⟩
  · cases letters with
    | nil => exact absurd rfl hne
    | cons l letters => exact ⟨l, _, rfl, by simp [isNameStart, halpha l (List.mem_cons_self ..)]⟩
  · rcases List.mem_append.mp hd with hd | hd
    · simp [isNameChar, Char.isAlphanum, halpha d hd]
    · exact isNameChar_of_isWordChar (hwords d hd)

/-- A text is in camel case already, or in camel case it has a character that is no small letter. -/
theorem camelFold_eq_self_or (cs : List Char) :
    camelFold cs = cs ∨ ∃ c ∈ camelFold cs, c.isLower = false := by
  fun_induction camelFold cs with
  | case1 => exact Or.inl rfl
  | case2 c => exact Or.inl rfl
  | case3 c d cs hfold ih =>
    exact Or.inr ⟨d.toUpper, List.mem_cons_self .., isLower_toUpper hfold.2⟩
  | case4 c d cs hfold ih =>
    rcases ih with heq | ⟨e, he, hlower⟩
    · exact Or.inl (congrArg (c :: ·) heq)
    · exact Or.inr ⟨e, List.mem_cons_of_mem c he, hlower⟩

/-- **A name that can be declared still can in camel case.**  A capital keeps it from being
reserved. -/
theorem isLegal_camelFold {cs : List Char} (h : IsLegal cs) : IsLegal (camelFold cs) where
  start := by
    obtain ⟨c, cs, rfl, hc⟩ := h.start
    cases cs with
    | nil => exact ⟨c, [], rfl, hc⟩
    | cons d cs =>
      rw [camelFold]
      split
      · next hfold => exact ⟨_, _, rfl, by simp [isNameStart, isAlpha_toUpper hfold.2]⟩
      · exact ⟨c, _, rfl, hc⟩
  chars := forall_mem_camelFold (fun _ h => isNameChar_of_isWordChar (isWordChar_toUpper h)) h.chars
  free := by
    rcases camelFold_eq_self_or cs with heq | ⟨c, hc, hlower⟩
    · rw [heq, h.free]
    · exact isReserved_eq_false hc hlower

/-! ### Names of parameters -/

/-- A name in camel case, unless it is an identifier. -/
def folded (name : List Char) : List Char :=
  if isIdentifier name then name else camelFold (joinWords name)

/-- A parameter is declared under its own name, or under that in camel case, or under the latter
after an underscore. -/
theorem bindingChars_cases (name : List Char) :
    (isBinding name = true ∧ bindingChars name = name) ∨
      bindingChars name = '_' :: folded name ∨
      ∃ c cs, folded name = c :: cs ∧ c.isDigit = false ∧ isReserved (folded name) = false ∧
        bindingChars name = folded name := by
  by_cases hname : isBinding name = true
  · exact Or.inl ⟨hname, by rw [bindingChars, if_pos hname]⟩
  · have hfolded : (if isIdentifier name then name else camelFold (joinWords name)) = folded name :=
      rfl
    refine Or.inr ?_
    cases hfold : folded name with
    | nil => exact Or.inl (by simp only [bindingChars, if_neg hname, hfolded, hfold])
    | cons c cs =>
      have heq : bindingChars name =
          if c.isDigit || isReserved (c :: cs) then '_' :: c :: cs else c :: cs := by
        simp only [bindingChars, if_neg hname, hfolded, hfold]
      by_cases hmark : (c.isDigit || isReserved (c :: cs)) = true
      · exact Or.inl (by rw [heq, if_pos hmark])
      · have hfree := hmark
        rw [Bool.or_eq_true, not_or, Bool.not_eq_true, Bool.not_eq_true] at hfree
        exact Or.inr ⟨c, cs, rfl, hfree.1, hfree.2, by rw [heq, if_neg hmark]⟩

/-- A parameter's name made fit to be declared has only characters of names, besides the line feed
at the end of a name that is an identifier. -/
theorem isNameChar_of_mem_bindingChars (name : List Char) :
    ∀ c ∈ bindingChars name, isNameChar c = true ∨ (c = '\n' ∧ name.getLast? = some '\n') := by
  have hfolded : ∀ c ∈ folded name,
      isNameChar c = true ∨ (c = '\n' ∧ name.getLast? = some '\n') := by
    unfold folded
    split
    · next hident => exact isNameChar_of_isIdentifier hident
    · exact fun c hc => Or.inl (isNameChar_of_isWordChar (isWordChar_of_mem_words name c hc))
  rcases bindingChars_cases name with ⟨hname, heq⟩ | heq | ⟨_, _, _, _, _, heq⟩
  · rw [heq]
    exact isNameChar_of_isIdentifier (Bool.and_eq_true_iff.mp hname).1
  · rw [heq]
    exact List.forall_mem_cons.mpr ⟨Or.inl isNameChar_underscore, hfolded⟩
  · rw [heq]
    exact hfolded

/-- **A parameter can be declared under its name made fit for it**, unless that name ends with a
line feed. -/
theorem isLegal_bindingChars {name : List Char} (hend : name.getLast? ≠ some '\n') :
    IsLegal (bindingChars name) := by
  have hchars : ∀ c ∈ bindingChars name, isNameChar c = true := fun c hc =>
    (isNameChar_of_mem_bindingChars name c hc).resolve_right fun h => hend h.2
  rcases bindingChars_cases name with ⟨hname, heq⟩ | heq | ⟨c, cs, hfold, hdigit, hfree, heq⟩
  · rw [heq] at hchars ⊢
    obtain ⟨hident, hfree⟩ := Bool.and_eq_true_iff.mp hname
    cases name with
    | nil => cases hident
    | cons c cs =>
      refine ⟨⟨c, cs, rfl, (Bool.and_eq_true_iff.mp hident).1⟩, hchars, ?_⟩
      simpa using hfree
  · rw [heq] at hchars ⊢
    exact isLegal_cons_underscore (List.forall_mem_cons.mp hchars).2
  · rw [heq] at hchars ⊢
    have hc : isNameChar c = true := hchars c (hfold ▸ List.mem_cons_self ..)
    exact ⟨⟨c, cs, hfold, isNameStart_iff.mpr ⟨hc, hdigit⟩⟩, hchars, hfree⟩

/-! ### Names told apart -/

/-- A name after a number of underscores. -/
def underscored (k : ℕ) (name : String) : String :=
  String.ofList (List.replicate k '_' ++ name.toList)

@[simp] theorem toList_underscored (k : ℕ) (name : String) :
    (underscored k name).toList = List.replicate k '_' ++ name.toList := by
  rw [underscored, String.toList_ofList]

@[simp] theorem underscored_zero (name : String) : underscored 0 name = name := by
  rw [underscored, List.replicate_zero, List.nil_append, String.ofList_toList]

/-- An underscore more, put in front first. -/
theorem underscored_succ (k : ℕ) (name : String) :
    underscored (k + 1) name = underscored k ("_" ++ name) := by
  refine String.toList_injective ?_
  rw [toList_underscored, toList_underscored, String.toList_append, List.replicate_succ',
    List.append_assoc]
  rfl

theorem underscored_injective (name : String) :
    Function.Injective fun k => underscored k name := by
  intro j k h
  have hlength := congrArg (fun s : String => s.toList.length) h
  simpa using hlength

/-- What comes of telling a name apart is the name after some underscores, so many that the name is
taken after any fewer. -/
theorem exists_freshWithin_eq {taken : List String} {bound : ℕ} :
    ∀ {name : String}, ∃ k ≤ bound, freshWithin taken bound name = underscored k name ∧
      ∀ j < k, underscored j name ∈ taken := by
  -- After no underscores there are no fewer.
  have hnone : ∀ name : String, ∀ j < 0, underscored j name ∈ taken := fun _ j hj =>
    absurd hj (Nat.not_lt_zero j)
  induction bound with
  | zero =>
    intro name
    exact ⟨0, Nat.le_refl 0, (underscored_zero name).symm, hnone name⟩
  | succ bound ih =>
    intro name
    rw [freshWithin]
    split
    · next hname =>
      obtain ⟨k, hk, heq, htaken⟩ := @ih ("_" ++ name)
      refine ⟨k + 1, by omega, by rw [heq, underscored_succ], fun j hj => ?_⟩
      cases j with
      | zero => rwa [underscored_zero]
      | succ j =>
        rw [underscored_succ]
        exact htaken j (by omega)
    · exact ⟨0, by omega, (underscored_zero name).symm, hnone name⟩

/-- A name told apart is the name after no more underscores than there are names taken, and after
any fewer it is taken. -/
theorem exists_fresh_eq (taken : List String) (name : String) :
    ∃ k ≤ taken.length, fresh taken name = underscored k name ∧
      ∀ j < k, underscored j name ∈ taken :=
  exists_freshWithin_eq

theorem fresh_of_not_mem {taken : List String} {name : String} (h : name ∉ taken) :
    fresh taken name = name := by
  cases taken with
  | nil => rfl
  | cons t ts => rw [fresh, List.length_cons, freshWithin, if_neg h]

/-- If what comes of telling a name apart is taken, so is the name after any number of
underscores. -/
theorem underscored_mem_of_freshWithin_mem {taken : List String} {bound : ℕ} :
    ∀ {name : String}, freshWithin taken bound name ∈ taken →
      ∀ k ≤ bound, underscored k name ∈ taken := by
  induction bound with
  | zero =>
    intro name h k hk
    obtain rfl : k = 0 := by omega
    rwa [underscored_zero]
  | succ bound ih =>
    intro name h k hk
    rw [freshWithin] at h
    split at h
    · next hname =>
      cases k with
      | zero => rwa [underscored_zero]
      | succ k =>
        rw [underscored_succ]
        exact ih h k (by omega)
    · next hname => exact absurd h hname

/-- **A name told apart from those taken is not one of them.**  Otherwise one more name would be
taken than there are. -/
theorem fresh_not_mem (taken : List String) (name : String) : fresh taken name ∉ taken := by
  intro h
  have hsub : (List.range (taken.length + 1)).map (fun k => underscored k name) ⊆ taken := by
    intro x hx
    obtain ⟨k, hk, rfl⟩ := List.mem_map.mp hx
    have hk : k < taken.length + 1 := List.mem_range.mp hk
    exact underscored_mem_of_freshWithin_mem h k (by omega)
  have hnodup : ((List.range (taken.length + 1)).map fun k => underscored k name).Nodup :=
    List.Nodup.map (underscored_injective name) List.nodup_range
  have hle := (List.subperm_of_subset hnodup hsub).length_le
  rw [List.length_map, List.length_range] at hle
  omega

/-! ### The names of all parameters -/

theorem not_mem_of_mem_bindingsAfter {names : List String} :
    ∀ {taken : List String}, ∀ b ∈ bindingsAfter taken names, b ∉ taken := by
  induction names with
  | nil => simp [bindingsAfter]
  | cons name names ih =>
    intro taken
    rw [bindingsAfter]
    refine List.forall_mem_cons.mpr ⟨fresh_not_mem taken _, fun b hb hmem => ?_⟩
    exact ih b hb (List.mem_append_left _ hmem)

theorem nodup_bindingsAfter (names : List String) :
    ∀ taken : List String, (bindingsAfter taken names).Nodup := by
  induction names with
  | nil => exact fun _ => List.nodup_nil
  | cons name names ih =>
    intro taken
    rw [bindingsAfter]
    refine List.nodup_cons.mpr ⟨fun hmem => ?_, ih _⟩
    exact not_mem_of_mem_bindingsAfter _ hmem (List.mem_append_right _ (List.mem_singleton_self _))

/-- **The names of parameters are distinct.** -/
theorem nodup_bindings (names : List String) : (bindings names).Nodup :=
  nodup_bindingsAfter names []

/-- A name that is declared is that of a parameter made fit for it, after some underscores. -/
theorem exists_of_mem_bindingsAfter {names : List String} :
    ∀ {taken : List String}, ∀ b ∈ bindingsAfter taken names,
      ∃ name ∈ names, ∃ k, b = underscored k (bindingName name) := by
  induction names with
  | nil => simp [bindingsAfter]
  | cons name names ih =>
    intro taken
    rw [bindingsAfter]
    refine List.forall_mem_cons.mpr ⟨?_, fun b hb => ?_⟩
    · obtain ⟨k, -, hk, -⟩ := exists_fresh_eq taken (bindingName name)
      exact ⟨name, List.mem_cons_self .., k, hk⟩
    · obtain ⟨name', hname', hk⟩ := ih b hb
      exact ⟨name', List.mem_cons_of_mem _ hname', hk⟩

theorem exists_of_mem_bindings {names : List String} {b : String} (h : b ∈ bindings names) :
    ∃ name ∈ names, ∃ k, b = underscored k (bindingName name) :=
  exists_of_mem_bindingsAfter b h

/-- The name of each parameter, made fit to be declared, is taken or is declared. -/
theorem bindingName_mem {names : List String} :
    ∀ (taken : List String), ∀ name ∈ names,
      bindingName name ∈ taken ++ bindingsAfter taken names := by
  induction names with
  | nil => simp
  | cons first names ih =>
    intro taken name hname
    rw [bindingsAfter]
    rcases List.mem_cons.mp hname with rfl | hname
    · by_cases htaken : bindingName name ∈ taken
      · exact List.mem_append_left _ htaken
      · rw [fresh_of_not_mem htaken]
        exact List.mem_append_right _ (List.mem_cons_self ..)
    · simpa using ih (taken ++ [fresh taken (bindingName first)]) name hname

/-- **A name that does not begin with an underscore is declared if and only if a parameter's own
name is made into it.** -/
theorem mem_bindings_iff {names : List String} {n : String} (hn : n.toList.head? ≠ some '_') :
    n ∈ bindings names ↔ ∃ name ∈ names, bindingName name = n := by
  constructor
  · intro h
    obtain ⟨name, hname, k, hk⟩ := exists_of_mem_bindings h
    refine ⟨name, hname, ?_⟩
    cases k with
    | zero => rw [hk, underscored_zero]
    | succ k =>
      -- A name that had to be told apart begins with an underscore.
      exact absurd (by rw [hk, toList_underscored]; rfl) hn
  · rintro ⟨name, hname, rfl⟩
    rw [bindings]
    simpa using bindingName_mem [] name hname

/-- What is declared can be, when no parameter's name ends with a line feed. -/
theorem isLegal_of_mem_bindings {names : List String}
    (hend : ∀ name ∈ names, name.toList.getLast? ≠ some '\n') {b : String}
    (hb : b ∈ bindings names) : IsLegal b.toList := by
  obtain ⟨name, hname, k, rfl⟩ := exists_of_mem_bindings hb
  have hlegal : IsLegal (bindingName name).toList := by
    rw [bindingName, String.toList_ofList]
    exact isLegal_bindingChars (hend name hname)
  cases k with
  | zero => rwa [underscored_zero]
  | succ k =>
    -- After an underscore nothing is reserved, whatever the name was made of.
    rw [toList_underscored, List.replicate_succ, List.cons_append]
    refine isLegal_cons_underscore fun c hc => ?_
    rcases List.mem_append.mp hc with hc | hc
    · rw [List.eq_of_mem_replicate hc]
      exact isNameChar_underscore
    · exact hlegal.chars c hc

end ServerActions.TypeScript
