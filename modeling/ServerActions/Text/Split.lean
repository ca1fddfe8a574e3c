/-!
# Cutting texts

A text cut at a character, and parts put together with a character between them.

## Main definitions

* `cut sep` — the parts of a text between the characters `sep`.
* `joinWith sep` — parts with `sep` between each and the next.
* `occursIn` — whether a text is part of another.

## Main statements

* `joinWith_cut` — the parts of a text, put together again, are the text.
* `cut_of_not_mem`, `cut_append` — a part ends where the text is first cut.
-/

namespace ServerActions.Text

/-- The parts of a text between the characters `sep`; a text without one is one part. -/
def cut (sep : Char) : List Char → List (List Char)
  | [] => [[]]
  | c :: cs =>
    if c = sep then [] :: cut sep cs
    else match cut sep cs with
      | [] => [[c]]
      | p :: ps => (c :: p) :: ps

/-- The parts with `sep` between each and the next. -/
def joinWith (sep : Char) : List (List Char) → List Char
  | [] => []
  | [p] => p
  | p :: ps => p ++ sep :: joinWith sep ps

/-- Whether a text is part of another. -/
def occursIn (part : List Char) : List Char → Bool
  | [] => part.isEmpty
  | c :: cs => part.isPrefixOf (c :: cs) || occursIn part cs

/-- A text has at least one part. -/
theorem cut_ne_nil (sep : Char) (cs : List Char) : cut sep cs ≠ [] := by
  cases cs with
  | nil => simp [cut]
  | cons c cs =>
    simp only [cut]
    split
    · simp
    · split <;> simp

/-- The parts of a text, put together again, are the text. -/
theorem joinWith_cut (sep : Char) (cs : List Char) : joinWith sep (cut sep cs) = cs := by
  induction cs with
  | nil => rfl
  | cons c cs ih =>
    obtain ⟨p, ps, h⟩ := List.exists_cons_of_ne_nil (cut_ne_nil sep cs)
    rw [h] at ih
    by_cases hc : c = sep
    · simp [cut, hc, h, joinWith, ih]
    · cases ps <;> simp_all [cut, joinWith]

/-- A text without the character at which it is cut is one part. -/
theorem cut_of_not_mem {sep : Char} {cs : List Char} (h : sep ∉ cs) : cut sep cs = [cs] := by
  induction cs with
  | nil => rfl
  | cons c cs ih =>
    obtain ⟨hc, hcs⟩ := not_or.mp fun hmem => h (List.mem_cons.mpr hmem)
    rw [Text.cut, if_neg (Ne.symm hc), ih hcs]

/-- The text before the first character at which it is cut is the first part. -/
theorem cut_append {sep : Char} {before : List Char} (h : sep ∉ before) (cs : List Char) :
    cut sep (before ++ sep :: cs) = before :: cut sep cs := by
  induction before with
  | nil => rw [List.nil_append, Text.cut, if_pos rfl]
  | cons c before ih =>
    obtain ⟨hc, hbefore⟩ := not_or.mp fun hmem => h (List.mem_cons.mpr hmem)
    rw [List.cons_append, Text.cut, if_neg (Ne.symm hc), ih hbefore]

end ServerActions.Text
