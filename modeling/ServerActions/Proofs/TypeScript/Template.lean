import ServerActions.TypeScript.Template

/-!
# Reading template literals

The inside of a template literal is read from its front: a backslash makes the next character
literal, a dollar sign and an opening brace begin an interpolation, which the next closing brace
ends, and a backtick ends the literal.  A text that was escaped is read back as it was.  When
placeholders in an escaped text are made interpolations, these are read as such and nothing else is:
escaping leaves braces alone and puts no backslash before one, so that no placeholder begins inside
of what a backslash makes literal.

## Main definitions

* `TemplatePart`, `parts?` — a part of the inside of a template literal, and its parts, unless the
  literal ends before the text does.
* `TemplatePart.restored` — a part with the placeholder put back in the place of its interpolation.
* `literal?` — the text that is read where there is no interpolation.
* `Escaped` — how a text looks that was escaped.

## Main results

* `literal?_escapeTemplate` — an escaped text is read back as it was.
* `parts?_interpolated` — of an escaped text with interpolations exactly these are read, and with
  the placeholders put back it is the escaped text.
-/

namespace ServerActions.TypeScript

/-! ### Reading -/

/-- A part of the inside of a template literal. -/
inductive TemplatePart
  /-- A character that stands for itself. -/
  | plain (c : Char)
  /-- A character after a backslash. -/
  | escaped (c : Char)
  /-- What stands between the marks of an interpolation. -/
  | interpolation (name : List Char)
  deriving DecidableEq, Repr

/-- The part as it is written. -/
def TemplatePart.written : TemplatePart → List Char
  | .plain c => [c]
  | .escaped c => ['\\', c]
  | .interpolation name => TypeScript.interpolation name

/-- The parts of the inside of a template literal.  There are none when a backtick ends the literal,
when nothing comes after a backslash, or when an interpolation does not end.  `opened` holds the
characters of an interpolation that has begun, the last one first. -/
def partsFrom : Option (List Char) → List Char → Option (List TemplatePart)
  | none, [] => some []
  | some _, [] => none
  | some name, c :: cs =>
    if c = '\x7d' then (partsFrom none cs).map (.interpolation name.reverse :: ·)
    else partsFrom (some (c :: name)) cs
  | none, '\\' :: c :: cs => (partsFrom none cs).map (.escaped c :: ·)
  | none, ['\\'] => none
  | none, '\x60' :: _ => none
  | none, '$' :: '\x7b' :: cs => partsFrom (some []) cs
  | none, c :: cs => (partsFrom none cs).map (.plain c :: ·)

/-- The parts of the inside of a template literal, unless the literal ends before the text does. -/
def parts? (cs : List Char) : Option (List TemplatePart) :=
  partsFrom none cs

/-- The character that a part stands for, if it is no interpolation. -/
def TemplatePart.char? : TemplatePart → Option Char
  | .plain c => some c
  | .escaped c => some c
  | .interpolation _ => none

/-- The text that is read, if all of it is read and there is no interpolation in it. -/
def literal? (cs : List Char) : Option (List Char) :=
  (parts? cs).bind fun ps => ps.mapM TemplatePart.char?

/-- The part as it is written, or a placeholder in the place of an interpolation of a known name. -/
def TemplatePart.restored (nameOf? : List Char → Option (List Char)) :
    TemplatePart → List Char
  | .interpolation b =>
    match nameOf? b with
    | some name => Piece.whole (.placeholder name)
    | none => TypeScript.interpolation b
  | p => p.written

@[simp] theorem parts?_pair (c : Char) (cs : List Char) :
    parts? ('\\' :: c :: cs) = (parts? cs).map (.escaped c :: ·) := rfl

/-- A character that begins nothing stands for itself. -/
theorem parts?_cons {c : Char} {cs : List Char} (hslash : c ≠ '\\') (htick : c ≠ '\x60')
    (hdollar : c = '$' → cs.head? ≠ some '\x7b') :
    parts? (c :: cs) = (parts? cs).map (.plain c :: ·) := by
  unfold parts?
  rw [partsFrom.eq_def]
  split <;> simp_all

/-- An interpolation goes up to the next closing brace. -/
theorem partsFrom_some {name : List Char} (h : '\x7d' ∉ name) (cs : List Char) :
    ∀ before, partsFrom (some before) (name ++ '\x7d' :: cs)
      = (parts? cs).map (.interpolation (before.reverse ++ name) :: ·) := by
  induction name with
  | nil =>
    intro before
    rw [List.nil_append, List.append_nil, partsFrom, if_pos rfl]
    rfl
  | cons c name ih =>
    intro before
    obtain ⟨hc, hname⟩ := List.ne_and_not_mem_of_not_mem_cons h
    rw [List.cons_append, partsFrom, if_neg (Ne.symm hc), ih hname, List.reverse_cons,
      List.append_assoc, List.singleton_append]

theorem parts?_interpolation {name : List Char} (h : '\x7d' ∉ name) (cs : List Char) :
    parts? (interpolation name ++ cs) = (parts? cs).map (.interpolation name :: ·) := by
  have hcs : interpolation name ++ cs = '$' :: '\x7b' :: (name ++ '\x7d' :: cs) := by
    simp [interpolation]
  rw [hcs]
  exact partsFrom_some h cs []

/-! ### Escaped texts -/

/-- How a text looks that was escaped: backslashes go before other characters than braces, and there
is neither a backtick nor the beginning of an interpolation besides. -/
inductive Escaped : List Char → Prop
  | nil : Escaped []
  | pair {c : Char} {cs : List Char} (hopen : c ≠ '\x7b') (hclose : c ≠ '\x7d')
      (h : Escaped cs) : Escaped ('\\' :: c :: cs)
  | plain {c : Char} {cs : List Char} (hslash : c ≠ '\\') (htick : c ≠ '\x60')
      (hdollar : c = '$' → cs.head? ≠ some '\x7b') (h : Escaped cs) : Escaped (c :: cs)

/-- Escaping puts no opening brace in front. -/
theorem head?_escapeTemplate {cs : List Char} (h : (escapeTemplate cs).head? = some '\x7b') :
    cs.head? = some '\x7b' := by
  revert h
  fun_cases escapeTemplate cs <;> simp

theorem escaped_escapeTemplate (cs : List Char) : Escaped (escapeTemplate cs) := by
  fun_induction escapeTemplate cs with
  | case1 => exact .nil
  | case2 cs ih => exact .pair (by decide) (by decide) ih
  | case3 cs ih => exact .pair (by decide) (by decide) ih
  | case4 cs hbrace ih => exact .pair (by decide) (by decide) ih
  | case5 cs hbrace ih =>
    exact .plain (by decide) (by decide) (fun _ h => hbrace (head?_escapeTemplate h)) ih
  | case6 c cs hslash htick hdollar ih =>
    exact .plain (fun h => hslash h) (fun h => htick h) (fun h => absurd h hdollar) ih

/-- A text whose first part stands for a character is read as this and what the rest is read as. -/
theorem literal?_of_parts? {text rest : List Char} {p : TemplatePart} {c : Char}
    (h : parts? text = (parts? rest).map (p :: ·)) (hp : p.char? = some c) :
    literal? text = (literal? rest).map (c :: ·) := by
  rw [literal?, literal?, h]
  cases parts? rest with
  | none => rfl
  | some ps =>
    change ((p :: ps).mapM TemplatePart.char?) = (ps.mapM TemplatePart.char?).map (c :: ·)
    rw [List.mapM_cons, hp]
    cases ps.mapM TemplatePart.char? <;> rfl

/-- **An escaped text is read back as it was.** -/
theorem literal?_escapeTemplate (cs : List Char) : literal? (escapeTemplate cs) = some cs := by
  fun_induction escapeTemplate cs with
  | case1 => rfl
  | case2 cs ih => rw [literal?_of_parts? (parts?_pair '\\' _) rfl, ih, Option.map_some]
  | case3 cs ih => rw [literal?_of_parts? (parts?_pair '\x60' _) rfl, ih, Option.map_some]
  | case4 cs hbrace ih => rw [literal?_of_parts? (parts?_pair '$' _) rfl, ih, Option.map_some]
  | case5 cs hbrace ih =>
    have hparts : parts? ('$' :: escapeTemplate cs) =
        (parts? (escapeTemplate cs)).map (.plain '$' :: ·) :=
      parts?_cons (by decide) (by decide) fun _ h => hbrace (head?_escapeTemplate h)
    rw [literal?_of_parts? hparts rfl, ih, Option.map_some]
  | case6 c cs hslash htick hdollar ih =>
    have hparts : parts? (c :: escapeTemplate cs) =
        (parts? (escapeTemplate cs)).map (.plain c :: ·) :=
      parts?_cons (fun h => hslash h) (fun h => htick h) fun h => absurd h hdollar
    rw [literal?_of_parts? hparts rfl, ih, Option.map_some]

/-- Two texts are escaped one by one, unless an opening brace comes after a dollar sign that ends
the first. -/
theorem escapeTemplate_append_of (cs : List Char) {ds : List Char}
    (h : cs.getLast? = some '$' → ds.head? ≠ some '\x7b') :
    escapeTemplate (cs ++ ds) = escapeTemplate cs ++ escapeTemplate ds := by
  have hlast : ∀ {c : Char} {cs : List Char}, ((c :: cs).getLast? = some '$' →
      ds.head? ≠ some '\x7b') → cs.getLast? = some '$' → ds.head? ≠ some '\x7b' := by
    intro c cs h hcs
    exact h (by rw [List.getLast?_cons, hcs]; rfl)
  -- What comes after matters only at a dollar sign, where the next character is looked at.
  fun_induction escapeTemplate cs with
  | case1 => rfl
  | case2 cs ih => rw [List.cons_append, escapeTemplate, ih (hlast h)]; rfl
  | case3 cs ih => rw [List.cons_append, escapeTemplate, ih (hlast h)]; rfl
  | case4 cs hbrace ih =>
    have hbrace' : (cs ++ ds).head? = some '\x7b' := by simp [List.head?_append, hbrace]
    rw [List.cons_append, escapeTemplate, if_pos hbrace', ih (hlast h)]
    rfl
  | case5 cs hbrace ih =>
    have hbrace' : (cs ++ ds).head? ≠ some '\x7b' := by
      cases cs with
      | nil => exact h rfl
      | cons c cs => exact hbrace
    rw [List.cons_append, escapeTemplate, if_neg hbrace', ih (hlast h)]
    rfl
  | case6 c cs hslash htick hdollar ih =>
    rw [List.cons_append, escapeTemplate, ih (hlast h), List.cons_append]
    · exact hslash
    · exact htick
    · exact hdollar

/-- Two texts are escaped one by one, unless the second begins with an opening brace. -/
theorem escapeTemplate_append (cs : List Char) {ds : List Char} (h : ds.head? ≠ some '\x7b') :
    escapeTemplate (cs ++ ds) = escapeTemplate cs ++ escapeTemplate ds :=
  escapeTemplate_append_of cs fun _ => h

/-! ### Placeholders -/

/-- A placeholder has no closing brace within. -/
theorem not_mem_of_mem_piecesFrom {opened : Option (List Char)} {cs name : List Char}
    (hopened : ∀ before, opened = some before → '\x7d' ∉ before)
    (h : .placeholder name ∈ piecesFrom opened cs) : '\x7d' ∉ name := by
  have hchar : ∀ c : Char, Piece.placeholder name ≠ .char c := fun c hc => nomatch hc
  have hchars : ∀ text : List Char, Piece.placeholder name ∉ text.map Piece.char := by
    intro text h
    obtain ⟨c, -, hc⟩ := List.mem_map.mp h
    cases hc
  have hempty : ∀ before, some [] = some before → '\x7d' ∉ before := by
    rintro before ⟨⟩
    simp
  fun_induction piecesFrom opened cs with
  | case1 => cases h
  | case2 before =>
    -- A brace that is never closed begins no placeholder.
    exact absurd ((List.mem_cons.mp h).resolve_left (hchar _)) (hchars _)
  | case3 cs ih => exact ih hempty h
  | case4 c cs hopen ih => exact ih (by simp) ((List.mem_cons.mp h).resolve_left (hchar _))
  | case5 cs before ih =>
    rcases List.mem_append.mp h with h | h
    · exact absurd ((List.mem_cons.mp h).resolve_left (hchar _)) (hchars _)
    · exact ih hempty h
  | case6 cs before hopen hnone ih =>
    have hrest := (List.mem_cons.mp h).resolve_left (hchar _)
    exact ih (by simp) ((List.mem_cons.mp hrest).resolve_left (hchar _))
  | case7 cs before hopen hsome ih =>
    rcases List.mem_cons.mp h with heq | h
    · rw [Piece.placeholder.inj heq, List.mem_reverse]
      exact hopened before rfl
    · exact ih (by simp) h
  | case8 c cs before hopen hclose ih =>
    refine ih ?_ h
    rintro _ ⟨⟩
    exact List.not_mem_cons_of_ne_of_not_mem (Ne.symm hclose) (hopened before rfl)

/-- What comes after a closing brace of an escaped text is escaped. -/
theorem Escaped.after {name cs : List Char} (hname : '\x7d' ∉ name)
    (h : Escaped (name ++ '\x7d' :: cs)) : Escaped cs := by
  generalize htext : name ++ '\x7d' :: cs = text at h
  induction h generalizing name with
  | nil => simp at htext
  | @pair c rest hopen hclose _ ih =>
    rcases name with _ | ⟨a, _ | ⟨b, name⟩⟩
    · simp at htext
    · -- The closing brace is not what a backslash makes literal.
      simp only [List.cons_append, List.nil_append, List.cons.injEq] at htext
      exact absurd htext.2.1.symm hclose
    · simp only [List.cons_append, List.cons.injEq] at htext
      exact ih (fun hmem => hname (by simp [hmem])) htext.2.2
  | @plain c rest hslash htick hdollar hrest ih =>
    cases name with
    | nil =>
      obtain ⟨-, rfl⟩ := List.cons.inj htext
      exact hrest
    | cons a name =>
      simp only [List.cons_append, List.cons.injEq] at htext
      exact ih (fun hmem => hname (by simp [hmem])) htext.2

/-- The piece, with a placeholder of an unknown name cut into its characters. -/
def Piece.spread (binding? : List Char → Option (List Char)) : Piece → List Piece
  | .char c => [.char c]
  | .placeholder name =>
    if (binding? name).isSome then [.placeholder name]
    else (Piece.whole (.placeholder name)).map .char

section

variable {binding? nameOf? : List Char → Option (List Char)}

@[simp] theorem flatMap_whole_char (c : Char) (ps : List Piece) :
    (Piece.char c :: ps).flatMap Piece.whole = c :: ps.flatMap Piece.whole := rfl

@[simp] theorem flatMap_interpolated_char (c : Char) (ps : List Piece) :
    (Piece.char c :: ps).flatMap (Piece.interpolated binding?)
      = c :: ps.flatMap (Piece.interpolated binding?) := rfl

theorem flatMap_whole_chars (cs : List Char) : (cs.map Piece.char).flatMap Piece.whole = cs := by
  induction cs with
  | nil => rfl
  | cons c cs ih => rw [List.map_cons, flatMap_whole_char, ih]

theorem flatMap_interpolated_chars (cs : List Char) :
    (cs.map Piece.char).flatMap (Piece.interpolated binding?) = cs := by
  induction cs with
  | nil => rfl
  | cons c cs ih => rw [List.map_cons, flatMap_interpolated_char, ih]

theorem flatMap_whole_spread (ps : List Piece) :
    (ps.flatMap (Piece.spread binding?)).flatMap Piece.whole = ps.flatMap Piece.whole := by
  rw [List.flatMap_assoc]
  congr 1
  funext p
  cases p with
  | char c => exact flatMap_whole_chars [c]
  | placeholder name =>
    rw [Piece.spread]
    split
    · exact List.append_nil _
    · exact flatMap_whole_chars _

theorem flatMap_interpolated_spread (ps : List Piece) :
    (ps.flatMap (Piece.spread binding?)).flatMap (Piece.interpolated binding?)
      = ps.flatMap (Piece.interpolated binding?) := by
  rw [List.flatMap_assoc]
  congr 1
  funext p
  cases p with
  | char c => exact flatMap_interpolated_chars [c]
  | placeholder name =>
    rw [Piece.spread]
    split
    · exact List.append_nil _
    · next hname =>
      rw [flatMap_interpolated_chars, Piece.interpolated, Option.not_isSome_iff_eq_none.mp hname]

/-- The placeholders that are left have known names. -/
theorem placeholder_mem_spread {ps : List Piece} {name : List Char}
    (h : .placeholder name ∈ ps.flatMap (Piece.spread binding?)) :
    .placeholder name ∈ ps ∧ (binding? name).isSome = true := by
  obtain ⟨p, hp, hmem⟩ := List.mem_flatMap.mp h
  cases p with
  | char c => cases List.mem_singleton.mp hmem
  | placeholder other =>
    rw [Piece.spread] at hmem
    split at hmem
    · next hname =>
      cases List.mem_singleton.mp hmem
      exact ⟨hp, hname⟩
    · obtain ⟨c, -, hc⟩ := List.mem_map.mp hmem
      cases hc

/-- Making interpolations puts no opening brace in front. -/
theorem head?_interpolated {ps : List Piece} {next later : List Char}
    (hnext : next.head? = some '\x7b' → later.head? = some '\x7b')
    (h : (ps.flatMap (Piece.interpolated binding?) ++ next).head? = some '\x7b') :
    (ps.flatMap Piece.whole ++ later).head? = some '\x7b' := by
  cases ps with
  | nil => exact hnext h
  | cons p ps =>
    cases p with
    | char c => exact h
    | placeholder name => rfl

/-- Of pieces with interpolations for their placeholders, before what comes next, only these
interpolations are read, and with the placeholders put back it is the text of the pieces. -/
def ReadsBack (binding? nameOf? : List Char → Option (List Char)) (next : List Char)
    (ps : List Piece) : Prop :=
  ∃ ts, parts? (ps.flatMap (Piece.interpolated binding?) ++ next)
      = (parts? next).map (ts ++ ·) ∧
    (∀ b, .interpolation b ∈ ts → ∃ name, binding? name = some b) ∧
    ts.flatMap (TemplatePart.restored nameOf?) = ps.flatMap Piece.whole

section

variable {next : List Char} {ps : List Piece}

theorem ReadsBack.nil : ReadsBack binding? nameOf? next [] :=
  ⟨[], by simp, by simp, rfl⟩

theorem ReadsBack.placeholder {name b : List Char} (hb : binding? name = some b)
    (hclose : '\x7d' ∉ b) (hback : nameOf? b = some name)
    (h : ReadsBack binding? nameOf? next ps) :
    ReadsBack binding? nameOf? next (.placeholder name :: ps) := by
  obtain ⟨ts, hts, hinner, hwhole⟩ := h
  refine ⟨.interpolation b :: ts, ?_, fun c hc => ?_, ?_⟩
  · rw [List.flatMap_cons, Piece.interpolated, hb, List.append_assoc]
    exact (parts?_interpolation hclose _).trans (by rw [hts, Option.map_map]; rfl)
  · rcases List.mem_cons.mp hc with hc | hc
    · cases hc
      exact ⟨name, hb⟩
    · exact hinner c hc
  · rw [List.flatMap_cons, List.flatMap_cons, hwhole, TemplatePart.restored, hback]

theorem ReadsBack.pair (c : Char) (h : ReadsBack binding? nameOf? next ps) :
    ReadsBack binding? nameOf? next (.char '\\' :: .char c :: ps) := by
  obtain ⟨ts, hts, hinner, hwhole⟩ := h
  refine ⟨.escaped c :: ts, ?_, by simpa using hinner, ?_⟩
  · rw [flatMap_interpolated_char, flatMap_interpolated_char, List.cons_append, List.cons_append,
      parts?_pair, hts, Option.map_map]
    rfl
  · rw [List.flatMap_cons, hwhole]
    rfl

theorem ReadsBack.plain {c : Char} {later : List Char} (hslash : c ≠ '\\') (htick : c ≠ '\x60')
    (hnext : next.head? = some '\x7b' → later.head? = some '\x7b')
    (hdollar : c = '$' → (ps.flatMap Piece.whole ++ later).head? ≠ some '\x7b')
    (h : ReadsBack binding? nameOf? next ps) :
    ReadsBack binding? nameOf? next (.char c :: ps) := by
  obtain ⟨ts, hts, hinner, hwhole⟩ := h
  refine ⟨.plain c :: ts, ?_, by simpa using hinner, ?_⟩
  · rw [flatMap_interpolated_char, List.cons_append,
      parts?_cons hslash htick fun hc h => hdollar hc (head?_interpolated hnext h), hts,
      Option.map_map]
    rfl
  · rw [List.flatMap_cons, hwhole]
    rfl

end

/-- **Exactly the interpolations that were made are read**, when the pieces are those of an escaped
text or of what stands in one before an opening brace, and every placeholder has a known name. -/
theorem readsBack_of_known {later : List Char} (next : List Char)
    (hname : ∀ name b, binding? name = some b → '\x7d' ∉ b ∧ nameOf? b = some name)
    (hlater : ∀ c ∈ later.head?, c = '\x7b')
    (hnext : next.head? = some '\x7b' → later.head? = some '\x7b') (ps : List Piece)
    (hknown : ∀ name, .placeholder name ∈ ps → '\x7d' ∉ name ∧ (binding? name).isSome = true)
    (hescaped : Escaped (ps.flatMap Piece.whole ++ later)) :
    ReadsBack binding? nameOf? next ps := by
  -- A backslash takes two pieces at once, so the induction is on the number of pieces.
  induction hlength : ps.length using Nat.strongRecOn generalizing ps with
  | _ n ih =>
    have hrest : ∀ qs : List Piece, qs.length < n → qs ⊆ ps →
        Escaped (qs.flatMap Piece.whole ++ later) → ReadsBack binding? nameOf? next qs :=
      fun qs hlt hsub hqs => ih qs.length hlt qs (fun name hmem => hknown name (hsub hmem)) hqs rfl
    subst hlength
    rcases ps with _ | ⟨c | name, ps⟩
    · exact .nil
    · generalize htext : (Piece.char c :: ps).flatMap Piece.whole ++ later = text at hescaped
      rw [flatMap_whole_char, List.cons_append] at htext
      cases hescaped with
      | nil => cases htext
      | @pair d cs hopen _ hcs =>
        obtain ⟨rfl, hpair⟩ := List.cons.inj htext
        -- The character after the backslash is no brace, so that no placeholder begins there.
        rcases ps with _ | ⟨e | name, ps⟩
        · exact absurd (hlater d (by rw [show later = d :: cs from hpair]; rfl)) hopen
        · rw [flatMap_whole_char, List.cons_append] at hpair
          obtain ⟨rfl, rfl⟩ := List.cons.inj hpair
          refine (hrest ps ?_ (fun p hp => ?_) hcs).pair e
          · simp only [List.length_cons]
            omega
          · exact List.mem_cons_of_mem _ (List.mem_cons_of_mem _ hp)
        · exact absurd (List.cons.inj hpair).1.symm hopen
      | @plain d cs hslash htick hdollar hcs =>
        obtain ⟨rfl, rfl⟩ := List.cons.inj htext
        exact (hrest ps (Nat.lt_succ_self _) (List.subset_cons_self ..) hcs).plain
          hslash htick hnext hdollar
    · obtain ⟨hclose, hsome⟩ := hknown name (List.mem_cons_self ..)
      obtain ⟨b, hb⟩ := Option.isSome_iff_exists.mp hsome
      obtain ⟨hb', hback⟩ := hname name b hb
      refine (hrest ps (Nat.lt_succ_self _) (List.subset_cons_self ..) ?_).placeholder hb hb' hback
      have hbrace : '\x7d' ∉ '\x7b' :: name := by simp [hclose]
      refine Escaped.after hbrace ?_
      simpa [Piece.whole] using hescaped

/-- What stands in an escaped text before an opening brace, with the interpolations made in it, is
read up to what comes next, which may be that brace or an interpolation. -/
theorem parts?_interpolated_append {cs later : List Char} (next : List Char)
    (hname : ∀ name b, binding? name = some b → '\x7d' ∉ b ∧ nameOf? b = some name)
    (hlater : ∀ c ∈ later.head?, c = '\x7b')
    (hnext : next.head? = some '\x7b' → later.head? = some '\x7b') (h : Escaped (cs ++ later)) :
    ∃ ts, parts? (interpolated binding? cs ++ next) = (parts? next).map (ts ++ ·) ∧
      (∀ b, .interpolation b ∈ ts → ∃ name, binding? name = some b) ∧
      ts.flatMap (TemplatePart.restored nameOf?) = cs := by
  have hwhole : ((pieces cs).flatMap (Piece.spread binding?)).flatMap Piece.whole = cs := by
    rw [flatMap_whole_spread, flatMap_whole_pieces]
  have hknown : ∀ name, .placeholder name ∈ (pieces cs).flatMap (Piece.spread binding?) →
      '\x7d' ∉ name ∧ (binding? name).isSome = true := by
    intro name hmem
    obtain ⟨hmem, hsome⟩ := placeholder_mem_spread hmem
    exact ⟨not_mem_of_mem_piecesFrom (by simp) hmem, hsome⟩
  obtain ⟨ts, hts, hinner, hrestored⟩ :=
    readsBack_of_known next hname hlater hnext _ hknown (hwhole.symm ▸ h)
  rw [flatMap_interpolated_spread] at hts
  exact ⟨ts, hts, hinner, hrestored.trans hwhole⟩

/-- **Of an escaped text with interpolations exactly these are read**, and with the placeholders put
back it is the escaped text. -/
theorem parts?_interpolated {before cs : List Char}
    (hname : ∀ name b, binding? name = some b → '\x7d' ∉ b ∧ nameOf? b = some name)
    (h : Escaped (before ++ cs)) :
    ∃ ts, parts? (before ++ interpolated binding? cs) = some ts ∧
      (∀ b, .interpolation b ∈ ts → ∃ name, binding? name = some b) ∧
      ts.flatMap (TemplatePart.restored nameOf?) = before ++ cs := by
  -- The text is taken as pieces that are characters or known placeholders, and these are read back.
  have hwhole : ((before.map Piece.char ++ pieces cs).flatMap (Piece.spread binding?)).flatMap
      Piece.whole = before ++ cs := by
    rw [flatMap_whole_spread, List.flatMap_append, flatMap_whole_chars, flatMap_whole_pieces]
  have hknown : ∀ name, .placeholder name ∈
      (before.map Piece.char ++ pieces cs).flatMap (Piece.spread binding?) →
      '\x7d' ∉ name ∧ (binding? name).isSome = true := by
    intro name hmem
    obtain ⟨hmem, hsome⟩ := placeholder_mem_spread hmem
    rcases List.mem_append.mp hmem with hmem | hmem
    · obtain ⟨c, -, hc⟩ := List.mem_map.mp hmem
      cases hc
    · exact ⟨not_mem_of_mem_piecesFrom (by simp) hmem, hsome⟩
  have hescaped : Escaped (((before.map Piece.char ++ pieces cs).flatMap
      (Piece.spread binding?)).flatMap Piece.whole ++ []) := by
    rwa [hwhole, List.append_nil]
  obtain ⟨ts, hts, hinner, hrestored⟩ :=
    readsBack_of_known [] hname (by simp) (by simp) _ hknown hescaped
  refine ⟨ts, ?_, hinner, hrestored.trans hwhole⟩
  rw [flatMap_interpolated_spread, List.flatMap_append, flatMap_interpolated_chars,
    List.append_nil] at hts
  exact hts.trans (congrArg some (List.append_nil ts))

end

end ServerActions.TypeScript
