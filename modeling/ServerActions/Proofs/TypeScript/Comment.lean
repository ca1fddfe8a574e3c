import ServerActions.Proofs.Text.Lines
import ServerActions.TypeScript.Comment

/-!
# Comments are closed

A comment made of any texts is one comment: it ends where it is meant to end, and each line of the
documentation is one line of it.  Texts are trimmed, cut and put together again on the way, but what
ends a comment is broken up in the whole text first, and from then on characters are only taken
away at the two ends of lines, so that no star comes to stand before a slash.

## Main definitions

* `IsVoid` — a text that is absent or blank.
* `endsSourceLine` — the characters that end a line of a program.
* `Encloses` — a text is a single comment with given lines.

## Main results

* `not_infix_breakCommentEnd` — nothing ends a comment in a text in which that is broken up.
* `docLines_eq_nil_iff` — there are no lines if and only if there is nothing to say.
* `docComment_encloses` — **a comment cannot be broken out of**.
-/

namespace ServerActions.TypeScript

open Text (isBlank isLineEnd isLineEnd_of_any lineTexts trim trimRight dedent)

/-! ### What ends a comment -/

/-- What ends a comment. -/
def commentEnd : List Char := ['*', '/']

section

variable {cs as bs : List Char}

theorem head?_breakCommentEnd (cs : List Char) : (breakCommentEnd cs).head? = cs.head? := by
  fun_cases breakCommentEnd cs <;> rfl

theorem breakCommentEnd_eq_nil_iff : breakCommentEnd cs = [] ↔ cs = [] := by
  rw [← List.head?_eq_none_iff, head?_breakCommentEnd, List.head?_eq_none_iff]

/-- Behind a character that is no star nothing ends a comment that did not end there before. -/
theorem not_infix_cons {c : Char} (hc : c = '*' → cs.head? ≠ some '/')
    (h : ¬ commentEnd <:+: cs) : ¬ commentEnd <:+: c :: cs := by
  rw [List.infix_cons_iff, not_or]
  refine ⟨fun hpair => ?_, h⟩
  obtain ⟨hstar, hslash⟩ := List.cons_prefix_cons.mp hpair
  obtain ⟨rest, rfl⟩ := hslash
  exact hc hstar.symm rfl

/-- **Nothing ends a comment in a text in which that is broken up.** -/
theorem not_infix_breakCommentEnd (cs : List Char) : ¬ commentEnd <:+: breakCommentEnd cs := by
  fun_induction breakCommentEnd cs with
  | case1 => decide
  | case2 cs ih =>
    refine not_infix_cons (by simp) (not_infix_cons (by simp) (not_infix_cons (by simp) ih))
  | case3 c cs hpair ih =>
    refine not_infix_cons (fun hc hslash => ?_) ih
    rw [head?_breakCommentEnd] at hslash
    obtain ⟨rest, rfl⟩ := List.head?_eq_some_iff.mp hslash
    exact hpair rest hc rfl

/-- What ends a comment has no line feed, so it stands on one side of each. -/
theorem infix_append_feed (h : commentEnd <:+: as ++ '\n' :: bs) :
    commentEnd <:+: as ∨ commentEnd <:+: bs := by
  have hfeed : '\n' ∉ commentEnd := by decide
  rcases List.infix_append_iff.mp h with h | h | ⟨before, after, heq, hbefore, hafter⟩
  · exact Or.inl h
  · rcases List.infix_cons_iff.mp h with h | h
    · exact absurd ((List.cons_prefix_cons.mp h).1) (by decide)
    · exact Or.inr h
  · -- What lies on both sides of the feed would have it within.
    cases after with
    | nil =>
      rw [heq, List.append_nil]
      exact Or.inl hbefore.isInfix
    | cons c after =>
      obtain ⟨rfl, -⟩ := List.cons_prefix_cons.mp hafter
      exact absurd (heq ▸ List.mem_append_right before (List.mem_cons_self ..)) hfeed

/-- Lines put together with line feeds end a comment only where one of them does. -/
theorem not_infix_intercalate {ls : List (List Char)} (h : ∀ l ∈ ls, ¬ commentEnd <:+: l) :
    ¬ commentEnd <:+: ['\n'].intercalate ls := by
  induction ls with
  | nil => decide
  | cons l ls ih =>
    obtain ⟨hl, hls⟩ := List.forall_mem_cons.mp h
    cases ls with
    | nil => rwa [List.intercalate_singleton]
    | cons l' ls =>
      rw [List.intercalate_cons_cons]
      intro hpair
      rw [List.append_assoc, List.singleton_append] at hpair
      exact (infix_append_feed hpair).elim hl (ih hls)

end

/-! ### The lines of the documentation -/

section

variable {text line : List Char} {summary description given : Option String} {deprecated : Bool}
  {doc : String}

theorem not_infix_of_mem_commentLines (h : line ∈ commentLines text) : ¬ commentEnd <:+: line := by
  obtain ⟨l, hl, rfl⟩ := List.mem_map.mp h
  intro hpair
  have hwhole : commentEnd <:+: breakCommentEnd (trim (dedent text)) :=
    hpair.trans ((Text.trimRight_prefix l).isInfix.trans (Text.infix_of_mem_lineTexts hl))
  exact not_infix_breakCommentEnd _ hwhole

theorem isLineEnd_of_mem_commentLines (h : line ∈ commentLines text) :
    ∀ c ∈ line, isLineEnd c = false := by
  obtain ⟨l, hl, rfl⟩ := List.mem_map.mp h
  exact fun c hc => Text.isLineEnd_of_mem_lineTexts hl c ((Text.trimRight_prefix l).subset hc)

/-- A text has no lines if and only if all of it is blank. -/
theorem commentLines_eq_nil_iff : commentLines text = [] ↔ text.all isBlank = true := by
  rw [commentLines, List.map_eq_nil_iff, Text.lineTexts_eq_nil_iff, breakCommentEnd_eq_nil_iff,
    Text.trim_eq_nil_iff, Text.all_isBlank_dedent]

/-- A line of the documentation ends neither a comment nor a line, and it has no blanks at its
end. -/
structure IsDocLine (doc : String) : Prop where
  endless : ¬ commentEnd <:+: doc.toList
  unbroken : ∀ c ∈ doc.toList, isLineEnd c = false
  trimmed : trimRight doc.toList = doc.toList

theorem isDocLine_of_mem_commentLines? (h : doc ∈ commentLines? given) : IsDocLine doc := by
  cases given with
  | none => cases h
  | some given =>
    obtain ⟨line, hline, rfl⟩ := List.mem_map.mp h
    refine ⟨?_, ?_, ?_⟩ <;> rw [String.toList_ofList]
    · exact not_infix_of_mem_commentLines hline
    · exact isLineEnd_of_mem_commentLines hline
    · obtain ⟨l, -, rfl⟩ := List.mem_map.mp hline
      exact List.rdropWhile_idempotent isBlank l

/-- Every line of the documentation is one. -/
theorem isDocLine_of_mem_docLines (h : doc ∈ docLines summary description deprecated) :
    IsDocLine doc := by
  rw [docLines, List.mem_append, List.mem_append] at h
  rcases h with (h | h) | h
  · exact isDocLine_of_mem_commentLines? h
  · exact isDocLine_of_mem_commentLines? h
  · cases deprecated with
    | false => cases h
    | true =>
      rw [List.mem_singleton.mp h]
      have hstar : '*' ∉ "@deprecated".toList := by decide
      have hunbroken : "@deprecated".toList.any isLineEnd = false := by decide
      exact ⟨fun hpair => hstar (hpair.subset (List.mem_cons_self ..)),
        isLineEnd_of_any hunbroken, by decide⟩

/-- A text is absent, or all of it is blank. -/
def IsVoid : Option String → Prop
  | none => True
  | some text => ∀ c ∈ text.toList, isBlank c = true

theorem commentLines?_eq_nil_iff : commentLines? given = [] ↔ IsVoid given := by
  cases given with
  | none => exact iff_of_true rfl trivial
  | some text =>
    rw [commentLines?, List.map_eq_nil_iff, commentLines_eq_nil_iff, List.all_eq_true, IsVoid]

/-- **There is no documentation if and only if there is nothing to say.** -/
theorem docLines_eq_nil_iff : docLines summary description deprecated = []
    ↔ IsVoid summary ∧ IsVoid description ∧ deprecated = false := by
  rw [docLines, List.append_eq_nil_iff, List.append_eq_nil_iff, commentLines?_eq_nil_iff,
    commentLines?_eq_nil_iff, and_assoc]
  cases deprecated <;> simp

end

/-! ### The lines of the comment -/

/-- The first line of a comment. -/
def commentHead : List Char := ['/', '*', '*']

/-- The last line of a comment. -/
def commentFoot : List Char := [' ', '*', '/']

/-- A line of the documentation as it is shown. -/
def shownLine (doc : String) : List Char :=
  if doc = "" then [' ', '*'] else ' ' :: '*' :: ' ' :: doc.toList

/-- The characters that end a line of a program. -/
def endsSourceLine (c : Char) : Bool :=
  c = '\n' || c = '\r' || c = '\u2028' || c = '\u2029'

section

variable {docs : List String} {doc text : String}

theorem isLineEnd_of_endsSourceLine {c : Char} (h : endsSourceLine c = true) :
    isLineEnd c = true := by
  simp only [endsSourceLine, Bool.or_eq_true, decide_eq_true_eq] at h
  rcases h with ((rfl | rfl) | rfl) | rfl <;> rfl

theorem toList_docLine (h : IsDocLine doc) : (docLine doc).toList = shownLine doc := by
  rw [docLine, String.toList_ofList, shownLine]
  split_ifs with hempty
  · rw [hempty]
    rfl
  · have hdoc : doc.toList ≠ [] := fun h => hempty (String.toList_eq_nil_iff.mp h)
    refine List.rdropWhile_eq_self_iff.mpr fun hne => ?_
    rw [List.getLast_append_of_ne_nil hne hdoc]
    exact List.rdropWhile_eq_self_iff.mp h.trimmed hdoc

theorem shownLine_prefix (doc : String) : [' ', '*'] <+: shownLine doc := by
  unfold shownLine
  split_ifs
  · exact List.prefix_refl _
  · exact ⟨' ' :: doc.toList, rfl⟩

/-- A blank before the line keeps the star away from what it begins with. -/
theorem not_infix_shownLine (h : IsDocLine doc) : ¬ commentEnd <:+: shownLine doc := by
  unfold shownLine
  split_ifs
  · decide
  · exact not_infix_cons (by simp) (not_infix_cons (by simp) (not_infix_cons (by simp) h.endless))

theorem isLineEnd_of_mem_shownLine (h : IsDocLine doc) :
    ∀ c ∈ shownLine doc, isLineEnd c = false := by
  unfold shownLine
  split_ifs
  · exact isLineEnd_of_any (by decide)
  · have hmargin : [' ', '*', ' '].any isLineEnd = false := by decide
    exact List.forall_mem_append.mpr ⟨isLineEnd_of_any hmargin, h.unbroken⟩

/-- The lines of a comment: the first, those of the documentation as they are shown, and the
last. -/
def commentRows (docs : List String) : List (List Char) :=
  commentHead :: docs.map shownLine ++ [commentFoot]

theorem isLineEnd_of_mem_commentRows (h : ∀ doc ∈ docs, IsDocLine doc) :
    ∀ row ∈ commentRows docs, ∀ c ∈ row, isLineEnd c = false := by
  intro row hrow
  rcases List.mem_append.mp hrow with hrow | hrow
  · rcases List.mem_cons.mp hrow with rfl | hrow
    · exact isLineEnd_of_any (by decide)
    · obtain ⟨doc, hdoc, rfl⟩ := List.mem_map.mp hrow
      exact isLineEnd_of_mem_shownLine (h doc hdoc)
  · rw [List.mem_singleton.mp hrow]
    exact isLineEnd_of_any (by decide)

/-- Before the last of several lines a line feed stands. -/
theorem intercalate_concat {ls : List (List Char)} (hne : ls ≠ []) (l : List Char) :
    ['\n'].intercalate (ls ++ [l]) = ['\n'].intercalate ls ++ '\n' :: l := by
  induction ls with
  | nil => exact absurd rfl hne
  | cons l' ls ih =>
    cases ls with
    | nil => simp
    | cons l'' ls =>
      rw [List.cons_append, List.intercalate_cons_of_ne_nil (by simp), ih (List.cons_ne_nil _ _),
        List.intercalate_cons_of_ne_nil (List.cons_ne_nil _ _), List.append_assoc,
        List.append_assoc, List.append_assoc]

/-- The text of a comment is made of its lines. -/
theorem toList_docComment? (hdocs : ∀ doc ∈ docs, IsDocLine doc)
    (h : docComment? docs = some text) :
    docs ≠ [] ∧ text.toList = ['\n'].intercalate (commentRows docs) := by
  have hne : docs ≠ [] := by
    rintro rfl
    cases h
  have hmap : (docs.map docLine).map String.toList = docs.map shownLine := by
    rw [List.map_map]
    exact List.map_congr_left fun doc hdoc => toList_docLine (hdocs doc hdoc)
  rw [docComment?, if_neg (by simpa using hne)] at h
  cases h
  refine ⟨hne, ?_⟩
  rw [commentRows, intercalate_concat (List.cons_ne_nil _ _),
    List.intercalate_cons_of_ne_nil (by simpa using hne), String.toList_append,
    String.toList_append, String.toList_intercalate, hmap]
  simp [commentHead, commentFoot]

/-- Lines put together with line feeds are cut where they were put together. -/
theorem splitOnP_intercalate {ends : Char → Bool} (hfeed : ends '\n' = true)
    {ls : List (List Char)} (hne : ls ≠ []) (h : ∀ l ∈ ls, ∀ c ∈ l, ends c = false) :
    (['\n'].intercalate ls).splitOnP ends = ls := by
  induction ls with
  | nil => exact absurd rfl hne
  | cons l ls ih =>
    obtain ⟨hl, hls⟩ := List.forall_mem_cons.mp h
    cases ls with
    | nil => rw [List.intercalate_singleton, List.splitOnP_eq_singleton hl]
    | cons l' ls =>
      rw [List.intercalate_cons_of_ne_nil (List.cons_ne_nil _ _), List.append_assoc,
        List.singleton_append, List.splitOnP_append_cons _ _ hfeed, List.splitOnP_eq_singleton hl,
        ih (List.cons_ne_nil _ _) hls, List.singleton_append]

/-- The lines of a text that is put together of lines, the last of which is not empty. -/
theorem lineTexts_intercalate {ls : List (List Char)} {last : List Char} (hne : last ≠ [])
    (h : ∀ l ∈ ls ++ [last], ∀ c ∈ l, isLineEnd c = false) :
    lineTexts (['\n'].intercalate (ls ++ [last])) = ls ++ [last] := by
  induction ls with
  | nil =>
    rw [List.nil_append, List.intercalate_singleton]
    exact Text.lineTexts_of_forall hne (h last (List.mem_singleton_self last))
  | cons l ls ih =>
    rw [List.cons_append] at h ⊢
    obtain ⟨hl, hls⟩ := List.forall_mem_cons.mp h
    rw [List.intercalate_cons_of_ne_nil (by simp), List.append_assoc, List.singleton_append,
      Text.lineTexts_append_feed hl, ih hls]

/-! ### The comment as a whole -/

/-- A text is one comment around the lines of a documentation. -/
structure Encloses (docs : List String) (text : String) : Prop where
  starts : commentHead <+: text.toList
  ends : commentEnd <:+ text.toList
  /-- What ends the comment stands nowhere else. -/
  once : ∀ before after, text.toList = before ++ commentEnd ++ after → after = []
  /-- The first line and the last have one line for each of the documentation between them. -/
  rows : lineTexts text.toList = commentHead :: docs.map shownLine ++ [commentFoot]
  /-- Those are the lines as a program has them, too. -/
  sourceRows : text.toList.splitOnP endsSourceLine
    = commentHead :: docs.map shownLine ++ [commentFoot]
  /-- Each line of the documentation is shown behind a star. -/
  starred : ∀ doc ∈ docs, [' ', '*'] <+: shownLine doc
  unbroken : ∀ doc ∈ docs, ∀ c ∈ doc.toList, isLineEnd c = false ∧ endsSourceLine c = false

/-- Without its last slash a comment is still made of lines, none of which ends it. -/
theorem exists_open_of_docComment? (hdocs : ∀ doc ∈ docs, IsDocLine doc)
    (h : docComment? docs = some text) :
    ∃ opened : List Char, text.toList = opened ++ ['/'] ∧ ¬ commentEnd <:+: opened := by
  obtain ⟨-, htext⟩ := toList_docComment? hdocs h
  refine ⟨['\n'].intercalate (commentHead :: docs.map shownLine ++ [[' ', '*']]), ?_, ?_⟩
  · rw [htext, commentRows, intercalate_concat (List.cons_ne_nil _ _),
      intercalate_concat (List.cons_ne_nil _ _), List.append_assoc]
    rfl
  · refine not_infix_intercalate fun l hl => ?_
    rcases List.mem_append.mp hl with hl | hl
    · rcases List.mem_cons.mp hl with rfl | hl
      · decide
      · obtain ⟨doc, hdoc, rfl⟩ := List.mem_map.mp hl
        exact not_infix_shownLine (hdocs doc hdoc)
    · rw [List.mem_singleton.mp hl]
      decide

theorem encloses_of_docComment? (hdocs : ∀ doc ∈ docs, IsDocLine doc)
    (h : docComment? docs = some text) : Encloses docs text := by
  obtain ⟨-, htext⟩ := toList_docComment? hdocs h
  have hends : ∀ row ∈ commentRows docs, ∀ c ∈ row, isLineEnd c = false :=
    isLineEnd_of_mem_commentRows hdocs
  have hsource : ∀ c, isLineEnd c = false → endsSourceLine c = false := by
    intro c hc
    refine Bool.eq_false_iff.mpr fun h => Bool.false_ne_true ?_
    exact hc.symm.trans (isLineEnd_of_endsSourceLine h)
  refine ⟨?_, ?_, fun before after heq => ?_, ?_, ?_, fun doc _ => shownLine_prefix doc,
    fun doc hdoc c hc => ?_⟩
  · rw [htext, commentRows, List.cons_append, List.intercalate_cons_of_ne_nil (by simp),
      List.append_assoc]
    exact List.prefix_append ..
  · rw [htext, commentRows, intercalate_concat (List.cons_ne_nil _ _)]
    exact ⟨['\n'].intercalate (commentHead :: docs.map shownLine) ++ ['\n', ' '],
      by rw [List.append_assoc]; rfl⟩
  · -- With more after it, the ending would stand before the last slash.
    by_contra hafter
    obtain ⟨after, c, rfl⟩ := List.eq_nil_or_concat' after |>.resolve_left hafter
    obtain ⟨opened, hopened, hendless⟩ := exists_open_of_docComment? hdocs h
    rw [hopened, ← List.append_assoc] at heq
    exact hendless ⟨before, after, (List.append_inj_left' heq rfl).symm⟩
  · rw [htext]
    exact lineTexts_intercalate (List.cons_ne_nil _ _) hends
  · rw [htext]
    exact splitOnP_intercalate rfl (List.cons_ne_nil _ _) fun row hrow c hc =>
      hsource c (hends row hrow c hc)
  · have hc := (hdocs doc hdoc).unbroken c hc
    exact ⟨hc, hsource c hc⟩

/-- **A comment cannot be broken out of**, whatever texts it is made of.  There is none if and only
if there is nothing to say, and otherwise it is a single comment around the lines of the
documentation. -/
theorem docComment_encloses (summary description : Option String) (deprecated : Bool) :
    (docComment? (docLines summary description deprecated) = none ↔
      IsVoid summary ∧ IsVoid description ∧ deprecated = false) ∧
      ∀ text, docComment? (docLines summary description deprecated) = some text →
        Encloses (docLines summary description deprecated) text := by
  refine ⟨?_, fun text => encloses_of_docComment? fun doc => isDocLine_of_mem_docLines⟩
  rw [← docLines_eq_nil_iff, docComment?]
  cases docLines summary description deprecated <;> simp

end

/-- Neither a mark that ends comments nor one that is cut in two by a line break ends the
comment. -/
theorem docComment_encloses_cut :
    let docs := docLines (some "Ends */ here") (some "  *\r\n    / ") true
    let text := "/**\n * Ends *\\/ here\n * *\n *   /\n * @deprecated\n */"
    docComment? docs = some text ∧ Encloses docs text := by
  intro docs text
  have htext : docComment? docs = some text := by decide +kernel
  exact ⟨htext, (docComment_encloses _ _ _).2 text htext⟩

end ServerActions.TypeScript
