import Mathlib.Data.List.DropRight
import ServerActions.Text.Lines

/-!
# Lines and margins

Each line of a text stands in it as a whole and has no character that ends a line, and lines that
are put together with line feeds are found again.  A text that is trimmed or freed from its margin
loses blanks only.

## Main results

* `isLineEnd_of_mem_lineTexts`, `infix_of_mem_lineTexts` — what the lines of a text are.
* `lineTexts_append_feed` — the first line feed ends the first line.
* `trim_eq_nil_iff`, `all_isBlank_dedent` — **only blanks are taken away**.
-/

namespace ServerActions.Text

/-! ### Lines cut out of a text -/

section

variable {cs line rest : List Char}

theorem isLineEnd_of_any (h : cs.any isLineEnd = false) : ∀ c ∈ cs, isLineEnd c = false :=
  fun c hc => Bool.eq_false_iff.mpr (List.any_eq_false.mp h c hc)

/-- The text of a line has no character that ends a line. -/
theorem isLineEnd_of_mem_lineTexts (h : line ∈ lineTexts cs) : ∀ c ∈ line, isLineEnd c = false := by
  obtain ⟨l, hl, rfl⟩ := List.mem_map.mp h
  clear h
  fun_induction lines cs generalizing l with
  | case1 => cases hl
  | case2 rest ih =>
    rcases List.mem_cons.mp hl with rfl | hl
    · exact List.forall_mem_nil _
    · exact ih l hl
  | case3 c rest _ hc ih =>
    rcases List.mem_cons.mp hl with rfl | hl
    · exact List.forall_mem_nil _
    · exact ih l hl
  | case4 c rest _ hc hnil ih =>
    rw [List.mem_singleton.mp hl]
    exact fun x hx => List.mem_singleton.mp hx ▸ Bool.eq_false_iff.mpr hc
  | case5 c rest _ hc first others hlines ih =>
    rw [hlines] at ih
    rcases List.mem_cons.mp hl with rfl | hl
    · exact List.forall_mem_cons.mpr ⟨Bool.eq_false_iff.mpr hc, ih _ (List.mem_cons_self ..)⟩
    · exact ih _ (List.mem_cons_of_mem _ hl)

/-- The text of a line stands as a whole in the text. -/
theorem infix_of_mem_lineTexts (h : line ∈ lineTexts cs) : line <:+: cs := by
  obtain ⟨l, hl, rfl⟩ := List.mem_map.mp h
  have hwhole : l.whole <:+: cs := by
    rw [← flatten_lines cs]
    exact List.infix_of_mem_flatten (List.mem_map_of_mem hl)
  exact (List.prefix_append l.text l.ending).isInfix.trans hwhole

theorem lineTexts_eq_nil_iff : lineTexts cs = [] ↔ cs = [] := by
  refine ⟨fun h => ?_, fun h => h ▸ rfl⟩
  rw [← flatten_lines cs, List.map_eq_nil_iff.mp h]
  rfl

/-- The lines of a text whose first character ends no line. -/
theorem lines_cons_of_not {c : Char} (hc : isLineEnd c = false) : lines (c :: rest)
    = match lines rest with
      | [] => [⟨[c], []⟩]
      | l :: ls => l.cons c :: ls := by
  have hreturn : ∀ cs, c = '\r' → rest = '\n' :: cs → False := by
    rintro _ rfl -
    cases hc
  exact (lines.eq_3 _ _ hreturn).trans (if_neg (by rw [hc]; exact Bool.false_ne_true))

/-- Up to the first line feed is the first line. -/
theorem lineTexts_append_feed (h : ∀ c ∈ line, isLineEnd c = false) :
    lineTexts (line ++ '\n' :: rest) = line :: lineTexts rest := by
  induction line with
  | nil => rfl
  | cons c line ih =>
    obtain ⟨hc, hline⟩ := List.forall_mem_cons.mp h
    obtain ⟨l, ls, hlines, htext, hrest⟩ := List.map_eq_cons_iff.mp (ih hline)
    rw [List.cons_append, lineTexts, lines_cons_of_not hc, hlines]
    exact congrArg₂ (fun t ts => (c :: t) :: ts) htext hrest

/-- A text without characters that end a line is one line. -/
theorem lineTexts_of_forall (hne : line ≠ []) (h : ∀ c ∈ line, isLineEnd c = false) :
    lineTexts line = [line] := by
  induction line with
  | nil => exact absurd rfl hne
  | cons c line ih =>
    obtain ⟨hc, hline⟩ := List.forall_mem_cons.mp h
    rw [lineTexts, lines_cons_of_not hc]
    cases hrest : line with
    | nil => rfl
    | cons d ds =>
      obtain ⟨l, ls, hlines, htext, hnil⟩ :=
        List.map_eq_cons_iff.mp (ih (hrest ▸ List.cons_ne_nil d ds) hline)
      rw [← hrest, hlines]
      exact congrArg₂ (fun t ts => (c :: t) :: ts) htext hnil

end

/-! ### Blanks -/

section

variable {cs row m : List Char} {rs : List (List Char)}

theorem trimRight_prefix (cs : List Char) : trimRight cs <+: cs :=
  List.rdropWhile_prefix isBlank cs

/-- Nothing is left of a text if and only if all of it is blank. -/
theorem trim_eq_nil_iff : trim cs = [] ↔ cs.all isBlank = true := by
  rw [trim, trimRight, List.reverse_eq_nil_iff, List.dropWhile_eq_nil_iff, trimLeft]
  simp only [List.mem_reverse, List.all_eq_true]
  constructor
  · intro h c hc
    rw [← List.takeWhile_append_dropWhile (p := isBlank) (l := cs)] at hc
    exact (List.mem_append.mp hc).elim (fun hc => List.mem_takeWhile_imp hc) (h c)
  · exact fun h c hc => h c ((List.dropWhile_suffix isBlank).subset hc)

theorem isBlank_of_isMarginChar {c : Char} (h : isMarginChar c = true) : isBlank c = true := by
  rcases Bool.or_eq_true _ _ |>.mp h with h | h <;> rw [of_decide_eq_true h] <;> rfl

theorem commonStart_prefix_left (as bs : List Char) : commonStart as bs <+: as := by
  fun_induction commonStart as bs with
  | case1 as b bs ih => exact List.cons_prefix_cons.mpr ⟨rfl, ih⟩
  | case2 => exact List.nil_prefix
  | case3 => exact List.nil_prefix

theorem commonStart_prefix_right (as bs : List Char) : commonStart as bs <+: bs := by
  fun_induction commonStart as bs with
  | case1 as b bs ih => exact List.cons_prefix_cons.mpr ⟨rfl, ih⟩
  | case2 => exact List.nil_prefix
  | case3 => exact List.nil_prefix

/-- Every row that holds more than a margin begins with the common margin. -/
theorem exists_commonMargin (hrow : row ∈ rs) (hmore : row.all isMarginChar = false) :
    ∃ m, commonMargin rs = some m ∧ m <+: row.takeWhile isMarginChar := by
  induction rs with
  | nil => cases hrow
  | cons r rs ih =>
    rw [commonMargin]
    rcases List.mem_cons.mp hrow with rfl | hrow
    · rw [if_neg (by rw [hmore]; exact Bool.false_ne_true)]
      -- The row may be the only one that has a margin to offer.
      cases commonMargin rs with
      | none => exact ⟨_, rfl, List.prefix_refl _⟩
      | some m => exact ⟨_, rfl, commonStart_prefix_left _ _⟩
    · obtain ⟨m, hm, hmargin⟩ := ih hrow
      rw [hm]
      split_ifs
      · exact ⟨m, rfl, hmargin⟩
      · exact ⟨_, rfl, (commonStart_prefix_right _ _).trans hmargin⟩

/-- What is taken from a row as the common margin is blank. -/
theorem all_isBlank_drop_commonMargin (hrow : row ∈ rs) (hmore : row.all isMarginChar = false) :
    (row.drop ((commonMargin rs).getD []).length).all isBlank = row.all isBlank := by
  obtain ⟨m, hm, hmargin⟩ := exists_commonMargin hrow hmore
  obtain ⟨rest, rfl⟩ := hmargin.trans (List.takeWhile_prefix _)
  have hblank : m.all isBlank = true := List.all_eq_true.mpr fun c hc =>
    isBlank_of_isMarginChar (List.mem_takeWhile_imp (hmargin.subset hc))
  rw [hm, Option.getD_some, List.drop_left, List.all_append, hblank, Bool.true_and]

theorem all_isBlank_joinWith (rs : List (List Char)) :
    (joinWith '\n' rs).all isBlank = rs.all (·.all isBlank) := by
  fun_induction joinWith '\n' rs with
  | case1 => rfl
  | case2 r => rw [List.all_cons, List.all_nil, Bool.and_true]
  | case3 r rs _ ih => rw [List.all_append, List.all_cons, ih, List.all_cons]; rfl

/-- Only blanks are taken from a text with its margin. -/
theorem all_isBlank_dedent (cs : List Char) : (dedent cs).all isBlank = cs.all isBlank := by
  have hrow : ∀ r ∈ rows cs,
      (if r.all isMarginChar then [] else r.drop ((commonMargin (rows cs)).getD []).length).all
        isBlank = r.all isBlank := by
    intro r hr
    split_ifs with hmargin
    · refine (List.all_eq_true.mpr fun c hc => ?_).symm
      exact isBlank_of_isMarginChar (List.all_eq_true.mp hmargin c hc)
    · exact all_isBlank_drop_commonMargin hr (Bool.eq_false_iff.mpr hmargin)
  calc (dedent cs).all isBlank
      = (rows cs).all (·.all isBlank) := by
        rw [dedent, all_isBlank_joinWith, List.all_map, Bool.eq_iff_iff, List.all_eq_true,
          List.all_eq_true]
        exact forall₂_congr fun r hr => iff_of_eq (congrArg (· = true) (hrow r hr))
    _ = cs.all isBlank := by rw [← all_isBlank_joinWith, rows, joinWith_cut]

end

end ServerActions.Text
