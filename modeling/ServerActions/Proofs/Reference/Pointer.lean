import Mathlib.Algebra.Group.Nat.Defs
import ServerActions.Proofs.Reference.Components
import ServerActions.Proofs.Reference.Failures
import ServerActions.Proofs.Text.Numeral

/-!
# Pointers lead where they are spelled to

A value inside a description is reached from the root by names and by numbers, which are keys of
mappings or places in lists.  The pointer that spells these segments leads to the value again,
whatever the names are made of.  There is one exception: a number that is written with more digits
than a numeral may have fails as such.

## Main definitions

* `Segment`, `Segment.Enters` — a name or a number, and the values it leads from and to.
* `LeadsIn` — segments lead from a value to one that lies in it.
* `pointer` — the pointer that spells segments.

## Main results

* `unescape_eq` — reading a segment is two replacements made one after the other.
* `steps_pointer` — the steps of a pointer are the segments that it spells.
* `resolve_pointer_iff` — **a pointer leads where it is spelled to** if and only if all numbers in
  it are short enough.
-/

namespace ServerActions

namespace Reference

/-! ### Segments -/

/-- A segment of the way to a value: a name, or a number. -/
inductive Segment
  | name (s : String)
  | number (n : ℕ)
  deriving DecidableEq, Repr

/-- A segment as a text; numbers are written in base ten. -/
def Segment.text : Segment → String
  | .name s => s
  | .number n => toString n

/-- A segment leads from a value to one just inside it: a name to the value under it, a number to
the value that a mapping has under it and not under a name spelled the same, or to the one at a
place of a list. -/
inductive Segment.Enters : Segment → Value → Value → Prop
  | name {s : String} {v inner : Value} {fs : Fields} (hfs : v.fields? = some fs)
      (hinner : fs.get? s = some inner) : Enters (.name s) v inner
  | entry {n : ℕ} {v inner : Value} {fs : Fields} (hfs : v.fields? = some fs)
      (hname : fs.get? (toString n) = none) (hinner : fs.find? (.int n) = some inner) :
      Enters (.number n) v inner
  | item {n : ℕ} {v inner : Value} {vs : List Value} (hvs : v.listItems? = some vs)
      (hinner : vs[n]? = some inner) : Enters (.number n) v inner

/-- Segments lead from a value to one that lies in it. -/
inductive LeadsIn : Value → List Segment → Value → Prop
  | nil (v : Value) : LeadsIn v [] v
  | cons {s : Segment} {ss : List Segment} {v inner w : Value} (hs : s.Enters v inner)
      (hss : LeadsIn inner ss w) : LeadsIn v (s :: ss) w

/-! ### Writing segments -/

/-- A text with another in the place of a character wherever it stands. -/
def replaceChar (old : Char) (new cs : List Char) : List Char :=
  cs.flatMap fun c => if c = old then new else [c]

/-- A text with a character in the place of a pair of others wherever it stands. -/
def replacePair (old old' new : Char) : List Char → List Char
  | [] => []
  | [c] => [c]
  | c :: d :: cs =>
    if c = old ∧ d = old' then new :: replacePair old old' new cs
    else c :: replacePair old old' new (d :: cs)

/-- A segment as it is written in a pointer: tildes are replaced first, and slashes then. -/
def Segment.written (s : Segment) : List Char :=
  replaceChar '/' ['~', '1'] (replaceChar '~' ['~', '0'] s.text.toList)

/-- The pointer that spells segments. -/
def pointer (ss : List Segment) : String :=
  String.ofList ('#' :: ss.flatMap fun s => '/' :: s.written)

theorem escape_eq (cs : List Char) :
    escape cs = replaceChar '/' ['~', '1'] (replaceChar '~' ['~', '0'] cs) := by
  induction cs with
  | nil => rfl
  | cons c cs ih =>
    simp only [replaceChar, List.flatMap_cons, List.flatMap_append] at ih ⊢
    by_cases htilde : c = '~'
    · simp [htilde, escape, ih]
    · by_cases hslash : c = '/'
      · simp [hslash, escape, ih]
      · simp [htilde, hslash, escape, ih]

/-- A character that does not begin the pair stays. -/
theorem replacePair_cons_of_ne {old old' new c : Char} (h : c ≠ old) (cs : List Char) :
    replacePair old old' new (c :: cs) = c :: replacePair old old' new cs := by
  cases cs with
  | nil => rfl
  | cons d cs => rw [replacePair, if_neg fun hpair => h hpair.1]

/-- A character stays before one that does not end the pair. -/
theorem replacePair_cons_of_head_ne {old old' new : Char} {cs : List Char}
    (h : ∀ d, cs.head? = some d → d ≠ old') (c : Char) :
    replacePair old old' new (c :: cs) = c :: replacePair old old' new cs := by
  cases cs with
  | nil => rfl
  | cons d cs => rw [replacePair, if_neg fun hpair => h d rfl hpair.2]

/-- A replacement keeps the first character, or puts the new one in its place. -/
theorem head?_replacePair {old old' new d : Char} {cs : List Char}
    (h : (replacePair old old' new cs).head? = some d) : cs.head? = some d ∨ d = new := by
  match cs with
  | [] => exact Or.inl h
  | [c] => exact Or.inl h
  | c :: e :: cs =>
    rw [replacePair] at h
    split_ifs at h with hpair
    · exact Or.inr (Option.some.inj h).symm
    · exact Or.inl h

/-- **Reading a segment is two replacements**: slashes are put back first, and tildes then. -/
theorem unescape_eq (cs : List Char) :
    unescape cs = replacePair '~' '0' '~' (replacePair '~' '1' '/' cs) := by
  fun_induction unescape cs with
  | case1 => rfl
  | case2 cs ih =>
    rw [replacePair, if_pos ⟨rfl, rfl⟩, replacePair_cons_of_ne (by decide), ih]
  | case3 cs ih =>
    have hzero : replacePair '~' '1' '/' ('0' :: cs) = '0' :: replacePair '~' '1' '/' cs :=
      replacePair_cons_of_ne (by decide) cs
    rw [replacePair, if_neg (by decide), hzero, replacePair, if_pos ⟨rfl, rfl⟩, ih]
  | case4 c cs hone hzero ih =>
    by_cases htilde : c = '~'
    · -- The slash that may come after the tilde is not read as a digit.
      subst htilde
      have hone' : ∀ d, cs.head? = some d → d ≠ '1' := by
        rintro d hd rfl
        obtain ⟨rest, rfl⟩ := List.head?_eq_some_iff.mp hd
        exact hone rest rfl rfl
      have hzero' : ∀ d, (replacePair '~' '1' '/' cs).head? = some d → d ≠ '0' := by
        rintro d hd rfl
        obtain hd | hd := head?_replacePair hd
        · obtain ⟨rest, rfl⟩ := List.head?_eq_some_iff.mp hd
          exact hzero rest rfl rfl
        · cases hd
      rw [replacePair_cons_of_head_ne hone', replacePair_cons_of_head_ne hzero', ih]
    · rw [replacePair_cons_of_ne htilde, replacePair_cons_of_ne htilde, ih]

/-! ### Reading pointers -/

theorem Segment.written_eq (s : Segment) : s.written = escape s.text.toList :=
  (escape_eq _).symm

theorem toList_pointer (s : Segment) (ss : List Segment) :
    (pointer (s :: ss)).toList
      = '#' :: '/' :: (s.written ++ ss.flatMap fun s => '/' :: s.written) := by
  rw [pointer, String.toList_ofList, List.flatMap_cons, List.cons_append]

/-- The steps of a pointer are the segments that it spells. -/
theorem steps_pointer (s : Segment) (ss : List Segment) :
    steps ((pointer (s :: ss)).toList.drop 2) = (s :: ss).map Segment.text := by
  have hread : ∀ s : Segment, String.ofList (unescape s.written) = s.text := fun s => by
    rw [s.written_eq, unescape_escape, String.ofList_toList]
  have hslash : ∀ s : Segment, '/' ∉ s.written := fun s => by
    rw [s.written_eq]
    exact not_mem_escape _
  rw [toList_pointer, List.drop_succ_cons, List.drop_succ_cons, List.drop_zero, steps]
  induction ss generalizing s with
  | nil =>
    rw [List.flatMap_nil, List.append_nil, Text.cut_of_not_mem (hslash s), List.map_singleton,
      hread, List.map_singleton]
  | cons t ss ih =>
    rw [List.flatMap_cons, List.cons_append, Text.cut_append (hslash s), List.map_cons, hread, ih t,
      ← List.map_cons]

/-- Segments that are spelled the same make up the same pointer. -/
theorem pointer_congr {ss ts : List Segment} (h : ss.map Segment.text = ts.map Segment.text) :
    pointer ss = pointer ts := by
  have hwritten : ∀ us : List Segment, pointer us = String.ofList ('#' ::
      (us.map Segment.text).flatMap fun s => '/' :: escape s.toList) := fun us => by
    rw [pointer, List.flatMap_map]
    simp only [Segment.written_eq]
  rw [hwritten, hwritten, h]

theorem resolve_pointer (root : Fields) (s : Segment) (ss : List Segment) :
    resolve root (pointer (s :: ss))
      = walk (pointer (s :: ss)) "#" (.map root) ((s :: ss).map Segment.text) := by
  have hlocal : startsWith "#/" (pointer (s :: ss)) = true := by
    have htext : "#/".toList = ['#', '/'] := by decide
    rw [startsWith, toList_pointer, htext, List.isPrefixOf_cons_cons, List.isPrefixOf_cons_cons]
    rfl
  rw [resolve_of_local hlocal, steps_pointer]

/-! ### Following segments -/

/-- The number that a segment may be is written with few enough digits to be read. -/
def Segment.IsShort : Segment → Prop
  | .name _ => True
  | .number n => (toString n).length ≤ Text.maxNumeralDigits

instance : DecidablePred Segment.IsShort
  | .name _ => .isTrue trivial
  | .number n => inferInstanceAs (Decidable ((toString n).length ≤ Text.maxNumeralDigits))

/-- The numbers that can be read are those below a power of ten. -/
theorem Segment.isShort_number_iff (n : ℕ) :
    (Segment.number n).IsShort ↔ n < 10 ^ Text.maxNumeralDigits := by
  rw [← Nat.length_toDigits_le_iff (by decide) (by decide), ← Nat.toList_repr, String.length_toList,
    ← Nat.toString_eq_repr]
  rfl

section

variable {root : Fields} {s : Segment} {ss : List Segment} {v inner w : Value}

theorem indexOf?_toString (n : ℕ) : indexOf? (toString n) =
    if (Segment.number n).IsShort then .ok (some n)
    else .error (.tooLong (toString n).length) := by
  rw [indexOf?, if_pos (Text.isDigits_toString n), Text.numeral_toString]
  by_cases hshort : (Segment.number n).IsShort
  · rw [if_pos hshort, if_neg (Nat.not_lt.mpr hshort)]
    rfl
  · rw [if_neg hshort, if_pos (Nat.lt_of_not_le hshort)]
    rfl

/-- A segment is followed to where it leads, if its number can be read. -/
theorem Segment.Enters.stepInto_eq (h : s.Enters v inner) : stepInto s.text v =
    if s.IsShort then .ok (some inner) else .error (.tooLong s.text.length) := by
  cases h with
  | @name t _ _ _ hfs hinner =>
    have hshort : (Segment.name t).IsShort := trivial
    rw [Segment.text, stepInto_of_get? hfs hinner, if_pos hshort]
  | @entry n _ _ fs hfs hname hinner =>
    simp only [Segment.text, stepInto, hfs, hname, indexOf?_toString]
    split_ifs
    · exact congrArg Except.ok hinner
    · rfl
  | @item n _ _ vs hvs hinner =>
    have hfs : v.fields? = none := by
      cases v with
      | list items => rfl
      | _ => cases hvs
    simp only [Segment.text, stepInto, hfs, hvs, indexOf?_toString]
    split_ifs
    · exact congrArg Except.ok hinner
    · rfl

/-- Where segments lead, others lead on. -/
theorem LeadsIn.append {ts : List Segment} (h : LeadsIn v ss inner) (hw : LeadsIn inner ts w) :
    LeadsIn v (ss ++ ts) w := by
  induction h with
  | nil => exact hw
  | cons hs _ ih => exact .cons hs (ih hw)

/-- **Segments are walked to where they lead**, as far as their numbers can be read. -/
theorem LeadsIn.walk_eq (h : LeadsIn v ss w) (ref walked : String) :
    walk ref walked v (ss.map Segment.text) = match ss.find? fun s => ¬ s.IsShort with
      | none => .ok w
      | some s => .error (.bare (.numeral (.tooLong s.text.length))) := by
  induction h generalizing walked with
  | nil v => rfl
  | @cons s ss v inner w hs hss ih =>
    rw [List.map_cons, walk, hs.stepInto_eq]
    by_cases hshort : s.IsShort
    · rw [List.find?_cons_of_neg (by simpa using hshort), if_pos hshort, ← ih]
    · rw [List.find?_cons_of_pos (by simpa using hshort), if_neg hshort]

/-- The pointer that spells segments is walked to where they lead. -/
theorem LeadsIn.resolve_eq (h : LeadsIn (.map root) ss v) (hne : ss ≠ []) :
    resolve root (pointer ss) = match ss.find? fun s => ¬ s.IsShort with
      | none => .ok v
      | some s => .error (.bare (.numeral (.tooLong s.text.length))) := by
  obtain ⟨s, rest, rfl⟩ := List.exists_cons_of_ne_nil hne
  rw [resolve_pointer, h.walk_eq]

/-- **A pointer leads where it is spelled to** if and only if all numbers in it are short enough to
be read. -/
theorem resolve_pointer_iff (h : LeadsIn (.map root) ss v) (hne : ss ≠ []) :
    resolve root (pointer ss) = .ok v ↔ ∀ s ∈ ss, s.IsShort := by
  rw [h.resolve_eq hne]
  cases hlong : ss.find? fun s => ¬ s.IsShort with
  | none => exact iff_of_true rfl fun t ht => by simpa using List.find?_eq_none.mp hlong t ht
  | some t =>
    refine iff_of_false (fun hok => by cases hok) fun hshort => ?_
    have ht : ¬ t.IsShort := by simpa using List.find?_some hlong
    exact ht (hshort t (List.mem_of_find?_eq_some hlong))

end

/-- A value under names made of tildes and slashes, a place in a list, a number and the empty
name. -/
def nested : Fields :=
  [(.str "a/b", .map [(.str "~1", .list [.map [(.int 7, .map [(.str "", .str "here")])]])])]

/-- The way to the innermost value. -/
def nestedWay : List Segment :=
  [.name "a/b", .name "~1", .number 0, .number 7, .name ""]

example : pointer nestedWay = "#/a~1b/~01/0/7/" := by decide

theorem leadsIn_nested : LeadsIn (.map nested) nestedWay (.str "here") :=
  .cons (.name rfl rfl) <| .cons (.name rfl rfl) <| .cons (.item rfl rfl) <|
    .cons (.entry rfl rfl rfl) <| .cons (.name rfl rfl) <| .nil _

theorem resolve_pointer_nested :
    LeadsIn (.map nested) nestedWay (.str "here") ∧ nestedWay ≠ [] ∧
      resolve nested (pointer nestedWay) = .ok (.str "here") := by
  have hne : nestedWay ≠ [] := by decide
  exact ⟨leadsIn_nested, hne, (resolve_pointer_iff leadsIn_nested hne).mpr (by decide)⟩

/-- A description with a value under a number. -/
def numbered (n : ℕ) : Fields :=
  [(.str "paths", .map []), (.str "x-codes", .map [(.int n, .null)])]

theorem leadsIn_numbered (n : ℕ) :
    LeadsIn (.map (numbered n)) [.name "x-codes", .number n] .null := by
  have hfound : Fields.find? [(.int n, .null)] (.int n) = some .null := by
    simp [Fields.find?, Key.same, Key.toInt?]
  exact .cons (.name rfl rfl) <| .cons (.entry rfl rfl hfound) <| .nil _

/-- The pointer to a value under a number with too many digits does not lead there. -/
theorem resolve_numbered {n : ℕ} (hn : 10 ^ Text.maxNumeralDigits ≤ n) :
    resolve (numbered n) (pointer [.name "x-codes", .number n])
      = .error (.bare (.numeral (.tooLong (toString n).length))) := by
  have hlong : ¬ (Segment.number n).IsShort :=
    fun h => absurd ((Segment.isShort_number_iff n).mp h) (Nat.not_lt.mpr hn)
  have hshort : (Segment.name "x-codes").IsShort := trivial
  rw [resolve_pointer, (leadsIn_numbered n).walk_eq, List.find?_cons_of_neg (by simpa using hshort),
    List.find?_cons_of_pos (by simpa using hlong)]
  rfl

/-- Among the values of a description that can be read is one to which its pointer does not lead. -/
theorem not_resolve_numbered :
    (∃ doc, Description.Document.model.ofFields (numbered (10 ^ Text.maxNumeralDigits))
      = .valid doc) ∧
      ¬ ∀ root ss v, LeadsIn (.map root) ss v → ss ≠ [] → resolve root (pointer ss) = .ok v := by
  refine ⟨⟨_, rfl⟩, fun h => ?_⟩
  have hok := h _ _ _ (leadsIn_numbered (10 ^ Text.maxNumeralDigits)) (by simp)
  rw [resolve_numbered (Nat.le_refl _)] at hok
  cases hok

end Reference

end ServerActions
