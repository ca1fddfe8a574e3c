import Mathlib.Data.List.Infix
import ServerActions.Console.Run

/-!
# Texts that can be printed

A text with markup cannot be printed when one of its tags closes what is not open.  Whether it can
be depends on its tags alone: what is no bracket and no backslash is passed over, and a tag is
followed by what is printed with other tags open.  A tag that closes begins with a bracket and a
slash, so a text without these two next to each other can always be printed.

## Main definitions

* `HasClosing` — a bracket and a slash follow each other in a text.
* `Printable` — a text can be printed while some tags are open.
* `Unmarked` — a text has no brackets and no backslashes.

## Main results

* `printable_plain_append`, `printable_tag` — what a text begins with, and what follows it.
* `printable_of_not_hasClosing` — **a text without closing tags can be printed.**
-/

namespace ServerActions.Console

section

variable {cs xs ys rest tag plain before before' : List Char} {opened opened' : List OpenTag}
  {ps : List Piece} {bound bound' position position' : Nat}

/-! ### A bracket before a slash -/

/-- A bracket and a slash follow each other. -/
def HasClosing (cs : List Char) : Prop := ['[', '/'] <:+: cs

theorem not_hasClosing_of_not_mem (h : '/' ∉ cs) : ¬ HasClosing cs :=
  fun hpair => h (hpair.subset (by simp))

/-- Where texts are put together, a bracket and a slash follow each other within one of them or
where they meet. -/
theorem not_hasClosing_append (hxs : ¬ HasClosing xs) (hys : ¬ HasClosing ys)
    (hmeet : xs.getLast? ≠ some '[' ∨ ys.head? ≠ some '/') : ¬ HasClosing (xs ++ ys) := by
  intro hpair
  rcases List.infix_append_iff.mp hpair with h | h | ⟨l₁, l₂, heq, hsuffix, hpre⟩
  · exact hxs h
  · exact hys h
  · -- A pair that stands across the border has its bracket before it and its slash after it.
    rcases List.cons_eq_append_iff.mp heq with ⟨rfl, rfl⟩ | ⟨l, rfl, htail⟩
    · exact hys hpre.isInfix
    · rcases List.cons_eq_append_iff.mp htail with ⟨rfl, rfl⟩ | ⟨l', rfl, hnil⟩
      · obtain ⟨front, rfl⟩ := hsuffix
        obtain ⟨back, rfl⟩ := hpre
        rcases hmeet with hlast | hhead
        · exact hlast (List.getLast?_concat ..)
        · exact hhead rfl
      · obtain ⟨rfl, rfl⟩ := List.append_eq_nil_iff.mp hnil.symm
        exact hxs hsuffix.isInfix

/-! ### Tags at the head of a text -/

/-- A tag is what stands in brackets. -/
theorem tagAt_eq_some (h : tagAt cs = some (tag, rest)) : cs = '[' :: tag ++ ']' :: rest := by
  unfold tagAt at h
  split at h
  · next c others =>
    have htaken := List.prefix_iff_eq_append.mp
      (List.takeWhile_prefix (l := others) fun x => x ≠ ']' && x ≠ '[')
    dsimp only at h
    split at h
    · next after _ hafter =>
      obtain ⟨rfl, rfl⟩ := Prod.mk.inj (Option.some.inj h)
      rw [List.cons_append, List.cons_append, ← hafter, htaken]
    · cases h
  · cases h

/-- A text that begins with another character has no tag at its head. -/
theorem tagAt_of_ne {c : Char} (h : c ≠ '[') : tagAt (c :: cs) = none := by
  unfold tagAt
  split
  · next heq => exact absurd (List.head_eq_of_cons_eq heq) h
  · rfl

/-! ### Tags that close -/

/-- The piece is a tag that closes. -/
def Piece.Closes : Piece → Prop
  | .text _ => False
  | .tag cs _ => cs.head? = some '/'

theorem not_closes_of_mem_textPiece {p : Piece} (h : p ∈ textPiece cs) : ¬ p.Closes := by
  unfold textPiece at h
  split at h
  · cases h
  · rw [List.mem_singleton.mp h]
    exact id

/-- A text without a bracket before a slash has no tags that close. -/
theorem not_closes_of_mem_pieces (h : ¬ HasClosing cs) :
    ∀ p ∈ pieces bound position before cs, ¬ p.Closes := by
  induction bound generalizing position before cs with
  | zero => exact fun p => not_closes_of_mem_textPiece
  | succ bound ih =>
    cases cs with
    | nil => exact fun p => not_closes_of_mem_textPiece
    | cons c cs =>
      rw [pieces]
      dsimp only
      cases htag : tagAt ((c :: cs).drop ((c :: cs).takeWhile (· = '\\')).length) with
      | none => exact ih fun hcs => h (List.infix_cons hcs)
      | some found =>
        obtain ⟨tag, rest⟩ := found
        have hwhole : '[' :: tag ++ ']' :: rest <:+: c :: cs := by
          rw [← tagAt_eq_some htag]
          exact (List.drop_suffix _ _).isInfix
        have hrest : ¬ HasClosing rest := fun hrest =>
          h ((hrest.trans ⟨'[' :: tag ++ [']'], [], by simp⟩).trans hwhole)
        -- A tag that began with a slash would have it after its bracket.
        have hslash : tag.head? ≠ some '/' := by
          intro hhead
          obtain ⟨tail, rfl⟩ := List.head?_eq_some_iff.mp hhead
          exact h (List.IsInfix.trans ⟨[], tail ++ ']' :: rest, rfl⟩ hwhole)
        intro p hp
        rcases List.mem_append.mp hp with hp | hp
        · rcases List.mem_append.mp hp with hp | hp <;> exact not_closes_of_mem_textPiece hp
        · rcases List.mem_cons.mp hp with rfl | hp
          · split_ifs
            · exact hslash
            · exact id
          · exact ih hrest p hp

/-- A tag that does not close is open after it. -/
theorem afterTag_of_head_ne (h : tag.head? ≠ some '/') :
    afterTag opened tag position = .ok (.ofTag tag :: opened) := by
  unfold afterTag
  split
  · next name hname =>
    cases tag with
    | nil => cases hname
    | cons c tag =>
      rw [tagName, List.takeWhile_cons] at hname
      split at hname
      · exact absurd (congrArg some (List.head_eq_of_cons_eq hname)) h
      · cases hname
  · rfl

/-- Pieces without a tag that closes can be printed. -/
theorem textOfPieces_of_not_closes (h : ∀ p ∈ ps, ¬ p.Closes) :
    ∃ text, textOfPieces opened ps = .ok text := by
  induction ps generalizing opened with
  | nil => exact ⟨[], rfl⟩
  | cons p ps ih =>
    obtain ⟨hp, hps⟩ := List.forall_mem_cons.mp h
    cases p with
    | text cs =>
      obtain ⟨text, htext⟩ : ∃ text, textOfPieces opened ps = .ok text := ih hps
      exact ⟨pieceText cs ++ text, by rw [textOfPieces, htext]; rfl⟩
    | tag tag position =>
      obtain ⟨text, htext⟩ : ∃ text, textOfPieces (.ofTag tag :: opened) ps = .ok text := ih hps
      exact ⟨text, by rw [textOfPieces, afterTag_of_head_ne hp]; exact htext⟩

/-- A tag without parameters can be closed. -/
theorem closing_of_parameters {t : OpenTag} (h : t.parameters = []) :
    closing t opened = .ok opened := by
  have hfault : t.fault? = none := by
    rw [OpenTag.fault?, h]
    exact ite_self _
  rw [closing, hfault]

/-- A slash alone closes the last tag. -/
theorem afterTag_slash {t : OpenTag} : afterTag (t :: opened) ['/'] position = closing t opened :=
  rfl

/-- A slash alone closes nothing where no tag is open. -/
theorem afterTag_slash_nil : afterTag [] ['/'] position = .error (.nothingOpen position) :=
  rfl

/-- A tag closes the one before it. -/
theorem afterTag_closing (hne : tag ≠ []) (hplain : '=' ∉ tag) (htrim : Text.trim tag = tag) :
    afterTag (.ofTag tag :: opened) ('/' :: tag) position = .ok opened := by
  -- Without an equals sign the whole tag is its name, and there is nothing after it.
  have hname : ∀ cs : List Char, '=' ∉ cs → tagName cs = cs := fun cs hcs => by
    have hall : ∀ c ∈ cs, decide (c ≠ '=') = true :=
      fun c hc => decide_eq_true fun heq => hcs (heq ▸ hc)
    have htaken : (cs ++ []).takeWhile (· ≠ '=') = cs ++ [].takeWhile (· ≠ '=') :=
      List.takeWhile_append_of_pos hall
    rwa [List.append_nil, List.takeWhile_nil, List.append_nil] at htaken
  have hopen : (OpenTag.ofTag tag).name = styleName tag := by
    rw [OpenTag.ofTag, hname tag hplain]
  have hparameters : (OpenTag.ofTag tag).parameters = [] := by
    simp [OpenTag.ofTag, hname tag hplain]
  have hclosing : tagName ('/' :: tag) = '/' :: tag :=
    hname _ (by simpa using hplain)
  unfold afterTag
  rw [hclosing]
  simp only [htrim, List.isEmpty_eq_false_iff.mpr hne, Bool.false_eq_true, if_false, hopen,
    List.find?_cons, decide_true, List.erase_cons_head]
  exact closing_of_parameters hparameters

/-! ### Printing from pieces -/

/-- Pieces can be printed while some tags are open. -/
def CanPrint (opened : List OpenTag) (ps : List Piece) : Prop :=
  ∃ text, textOfPieces opened ps = .ok text

theorem canPrint_text : CanPrint opened (.text cs :: ps) ↔ CanPrint opened ps := by
  unfold CanPrint
  rw [textOfPieces]
  cases textOfPieces opened ps with
  | error f => exact ⟨fun ⟨_, h⟩ => (nomatch h), fun ⟨_, h⟩ => (nomatch h)⟩
  | ok text => exact ⟨fun _ => ⟨text, rfl⟩, fun _ => ⟨pieceText cs ++ text, rfl⟩⟩

theorem canPrint_tag : CanPrint opened (.tag tag position :: ps) ↔
    ∃ opened', afterTag opened tag position = .ok opened' ∧ CanPrint opened' ps := by
  unfold CanPrint
  rw [textOfPieces]
  cases afterTag opened tag position with
  | error f => exact ⟨fun ⟨_, h⟩ => (nomatch h), fun ⟨_, h, _⟩ => (nomatch h)⟩
  | ok opened' =>
    refine ⟨fun h => ⟨opened', rfl, h⟩, ?_⟩
    rintro ⟨_, h, hps⟩
    cases h
    exact hps

theorem canPrint_textPiece_append : CanPrint opened (textPiece cs ++ ps) ↔ CanPrint opened ps := by
  unfold textPiece
  split_ifs
  · rfl
  · exact canPrint_text

theorem canPrint_textPiece : CanPrint opened (textPiece cs) := by
  rw [← List.append_nil (textPiece cs), canPrint_textPiece_append]
  exact ⟨[], rfl⟩

/-- Where a tag stands matters for the fault alone. -/
theorem afterTag_eq_ok (h : afterTag opened tag position = .ok opened') :
    afterTag opened tag position' = .ok opened' := by
  unfold afterTag at h ⊢
  split at h
  · split_ifs at h ⊢
    · split at h
      · cases h
      · exact h
    · split at h
      · exact h
      · cases h
  · exact h

/-- Whether the pieces of a text can be printed depends on the text alone, once there is room for
all of it. -/
theorem canPrint_pieces (hroom : cs.length < bound) (hroom' : cs.length < bound')
    (h : CanPrint opened (pieces bound position before cs)) :
    CanPrint opened (pieces bound' position' before' cs) := by
  -- Every step takes at least one character, so there is room for what is left of the text.
  induction bound generalizing bound' position position' before before' cs opened with
  | zero => exact absurd hroom (Nat.not_lt_zero _)
  | succ bound ih =>
    obtain ⟨bound', rfl⟩ := Nat.exists_eq_add_one_of_ne_zero (Nat.ne_zero_of_lt hroom')
    cases cs with
    | nil => exact canPrint_textPiece
    | cons c cs =>
      rw [pieces] at h ⊢
      dsimp only at h ⊢
      generalize hslashes : ((c :: cs).takeWhile (· = '\\')).length = slashes at h ⊢
      have hlength : cs.length + 1 = (c :: cs).length := rfl
      cases htag : tagAt ((c :: cs).drop slashes) with
      | none =>
        rw [htag] at h
        exact ih (Nat.lt_of_succ_lt_succ hroom) (Nat.lt_of_succ_lt_succ hroom') h
      | some found =>
        obtain ⟨tag, rest⟩ := found
        rw [htag] at h
        dsimp only at h ⊢
        have hrest : rest.length < cs.length + 1 := by
          have hlengths := congrArg List.length (tagAt_eq_some htag)
          simp only [List.length_drop, List.length_cons, List.length_append] at hlengths
          omega
        have hnext : ∀ opened,
            CanPrint opened (pieces bound (position + slashes + tag.length + 2) [] rest) →
              CanPrint opened (pieces bound' (position' + slashes + tag.length + 2) [] rest) :=
          fun opened => ih (by rw [List.length_cons] at hroom; omega)
            (by rw [List.length_cons] at hroom'; omega)
        rw [List.append_assoc, canPrint_textPiece_append, canPrint_textPiece_append] at h ⊢
        split_ifs at h ⊢
        · obtain ⟨opened', hafter, hprint⟩ := canPrint_tag.mp h
          exact canPrint_tag.mpr ⟨opened', afterTag_eq_ok hafter, hnext _ hprint⟩
        · exact canPrint_text.mpr (hnext _ (canPrint_text.mp h))

/-! ### Texts -/

/-- A text can be printed while some tags are open. -/
def Printable (opened : List OpenTag) (cs : List Char) : Prop :=
  CanPrint opened (pieces (cs.length + 1) 0 [] cs)

/-- A text is printed in whatever way there is room for it. -/
theorem printable_iff (hroom : cs.length < bound) :
    Printable opened cs ↔ CanPrint opened (pieces bound position before cs) :=
  ⟨canPrint_pieces (Nat.lt_succ_self _) hroom, canPrint_pieces hroom (Nat.lt_succ_self _)⟩

theorem plainText_iff {s : String} : (∃ text, plainText s = .ok text) ↔ Printable [] s.toList := by
  rw [plainText, ← String.length_toList]
  rfl

/-- **A text without closing tags can be printed.** -/
theorem printable_of_not_hasClosing (h : ¬ HasClosing cs) : Printable opened cs :=
  textOfPieces_of_not_closes (not_closes_of_mem_pieces h)

/-- A text without brackets and backslashes: no tag begins in it. -/
def Unmarked (cs : List Char) : Prop := '[' ∉ cs ∧ '\\' ∉ cs

instance : Decidable (Unmarked cs) := inferInstanceAs (Decidable (_ ∧ _))

theorem unmarked_of_forall {p : Char → Bool} (h : ∀ c ∈ cs, p c = true) (hbracket : p '[' = false)
    (hslash : p '\\' = false) : Unmarked cs :=
  ⟨fun hc => Bool.false_ne_true (hbracket ▸ h _ hc), fun hc => Bool.false_ne_true (hslash ▸ h _ hc)⟩

/-- What is no bracket and no backslash is passed over. -/
theorem printable_plain_append (h : Unmarked plain) :
    Printable opened (plain ++ rest) ↔ Printable opened rest := by
  induction plain with
  | nil => rfl
  | cons c plain ih =>
    obtain ⟨hbracket, hbrackets⟩ := not_or.mp (List.mem_cons.not.mp h.1)
    obtain ⟨hslash, hslashes⟩ := not_or.mp (List.mem_cons.not.mp h.2)
    have hnone : ((c :: (plain ++ rest)).takeWhile (· = '\\')).length = 0 := by
      simp [Ne.symm hslash]
    rw [← ih ⟨hbrackets, hslashes⟩, List.cons_append, Printable, pieces]
    simp only [hnone, List.drop_zero, tagAt_of_ne (Ne.symm hbracket)]
    exact (printable_iff (Nat.lt_succ_self _)).symm

/-- After a tag other tags are open. -/
theorem printable_tag (h : tagAt cs = some (tag, rest)) : Printable opened cs ↔
    ∃ opened', afterTag opened tag 0 = .ok opened' ∧ Printable opened' rest := by
  obtain rfl := tagAt_eq_some h
  have hslashes : (('[' :: tag ++ ']' :: rest).takeWhile (· = '\\')).length = 0 := rfl
  have hroom : rest.length < ('[' :: tag ++ ']' :: rest).length := by
    simp only [List.length_cons, List.length_append]
    omega
  rw [Printable, List.cons_append, pieces]
  rw [List.cons_append] at h hslashes hroom
  simp only [hslashes, List.drop_zero, h]
  refine canPrint_tag.trans (exists_congr fun opened' => and_congr_right fun _ => ?_)
  exact (printable_iff hroom).symm

/-- After a tag that does not close, it is open. -/
theorem printable_opening (h : tagAt cs = some (tag, rest)) (hhead : tag.head? ≠ some '/') :
    Printable opened cs ↔ Printable (.ofTag tag :: opened) rest := by
  rw [printable_tag h, afterTag_of_head_ne hhead]
  simp

/-- After the tag that closes the one before it, that is no longer open. -/
theorem printable_closing (h : tagAt cs = some ('/' :: tag, rest)) (hne : tag ≠ [])
    (hplain : '=' ∉ tag) (htrim : Text.trim tag = tag) :
    Printable (.ofTag tag :: opened) cs ↔ Printable opened rest := by
  rw [printable_tag h, afterTag_closing hne hplain htrim]
  simp

end

end ServerActions.Console
