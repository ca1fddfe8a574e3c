import ServerActions.Proofs.TypeScript.Template

/-!
# A placeholder in a path

Where a path has a placeholder, it is cut there: what stands before it and what comes after it are
escaped, searched for placeholders and read as if they stood alone.  The name in the placeholder is
escaped too, and it is the escaped name that is looked up.

## Main results

* `parts?_append` — two texts are read one after the other.
* `interpolated_placeholder` — a path with a placeholder is made into what its parts are made into.
* `reads_around` — how a path with a placeholder is read.
-/

namespace ServerActions.TypeScript

/-! ### Escaping -/

/-- What stands before an opening brace, escaped. -/
theorem exists_escapeTemplate_before (cs : List Char) :
    ∃ escaped, escapeTemplate (cs ++ ['\x7b']) = escaped ++ ['\x7b'] ∧
      literal? escaped = some cs ∧ (escaped.head? = some '\x7b' → cs.head? = some '\x7b') := by
  fun_induction escapeTemplate cs with
  | case1 => exact ⟨[], rfl, rfl, id⟩
  | case2 cs ih =>
    obtain ⟨escaped, heq, hread, -⟩ := ih
    refine ⟨'\\' :: '\\' :: escaped, ?_, ?_, by simp⟩
    · rw [List.cons_append, escapeTemplate, heq]
      rfl
    · rw [literal?_of_parts? (parts?_pair '\\' _) rfl, hread, Option.map_some]
  | case3 cs ih =>
    obtain ⟨escaped, heq, hread, -⟩ := ih
    refine ⟨'\\' :: '\x60' :: escaped, ?_, ?_, by simp⟩
    · rw [List.cons_append, escapeTemplate, heq]
      rfl
    · rw [literal?_of_parts? (parts?_pair '\x60' _) rfl, hread, Option.map_some]
  | case4 cs hbrace ih =>
    obtain ⟨escaped, heq, hread, -⟩ := ih
    have hbrace' : (cs ++ ['\x7b']).head? = some '\x7b' := by simp [List.head?_append, hbrace]
    refine ⟨'\\' :: '$' :: escaped, ?_, ?_, by simp⟩
    · rw [List.cons_append, escapeTemplate, if_pos hbrace', heq]
      rfl
    · rw [literal?_of_parts? (parts?_pair '$' _) rfl, hread, Option.map_some]
  | case5 cs hbrace ih =>
    obtain ⟨escaped, heq, hread, hhead⟩ := ih
    cases cs with
    | nil =>
      -- The dollar sign stands right before the brace.
      exact ⟨['\\', '$'], rfl, rfl, by simp⟩
    | cons c cs =>
      refine ⟨'$' :: escaped, ?_, ?_, by simp⟩
      · rw [List.cons_append, escapeTemplate, if_neg (by simpa using hbrace), heq]
        rfl
      · rw [literal?_of_parts? (parts?_cons (by decide) (by decide) fun _ h => hbrace (hhead h)) rfl,
          hread, Option.map_some]
  | case6 c cs hslash htick hdollar ih =>
    obtain ⟨escaped, heq, hread, -⟩ := ih
    refine ⟨c :: escaped, ?_, ?_, by simp⟩
    · rw [List.cons_append, escapeTemplate, heq, List.cons_append]
      · exact hslash
      · exact htick
      · exact hdollar
    · rw [literal?_of_parts? (parts?_cons (fun h => hslash h) (fun h => htick h)
        fun h => absurd h hdollar) rfl, hread, Option.map_some]

/-- Escaping adds nothing but backslashes. -/
theorem mem_of_mem_escapeTemplate {cs : List Char} {c : Char} (h : c ∈ escapeTemplate cs)
    (hc : c ≠ '\\') : c ∈ cs := by
  have hcons : ∀ {d : Char} {cs : List Char}, (c ∈ escapeTemplate cs → c ∈ cs) →
      c ∈ d :: escapeTemplate cs → c ∈ d :: cs := fun ih h =>
    List.mem_cons.mpr ((List.mem_cons.mp h).imp_right ih)
  fun_induction escapeTemplate cs with
  | case1 => exact h
  | case2 cs ih => exact hcons ih ((List.mem_cons.mp h).resolve_left hc)
  | case3 cs ih => exact hcons ih ((List.mem_cons.mp h).resolve_left hc)
  | case4 cs hbrace ih => exact hcons ih ((List.mem_cons.mp h).resolve_left hc)
  | case5 cs hbrace ih => exact hcons ih h
  | case6 d cs hslash htick hdollar ih => exact hcons ih h

theorem length_le_length_escapeTemplate (cs : List Char) :
    cs.length ≤ (escapeTemplate cs).length := by
  fun_induction escapeTemplate cs <;> simp only [List.length_cons, List.length_nil] <;> omega

/-- Escaping leaves a text without braces as it is, if and only if there is neither a backslash nor
a backtick in it. -/
theorem escapeTemplate_eq_self_iff {cs : List Char} (h : '\x7b' ∉ cs) :
    escapeTemplate cs = cs ↔ '\\' ∉ cs ∧ '\x60' ∉ cs := by
  -- Escaping never makes a text shorter, so one that became longer at its start is another text.
  have hlonger : ∀ (c d : Char) (cs : List Char), c :: d :: escapeTemplate cs ≠ d :: cs := by
    intro c d cs heq
    have hlength := congrArg List.length heq
    have hle := length_le_length_escapeTemplate cs
    simp only [List.length_cons] at hlength
    omega
  fun_induction escapeTemplate cs with
  | case1 => simp
  | case2 cs ih => simp [hlonger]
  | case3 cs ih => simp [hlonger]
  | case4 cs hbrace ih => exact absurd (List.mem_of_head? hbrace) (List.not_mem_of_not_mem_cons h)
  | case5 cs hbrace ih => simp_all
  | case6 c cs hslash htick hdollar ih =>
    refine (List.cons_inj_right c).trans ((ih (List.not_mem_of_not_mem_cons h)).trans ?_)
    have hslash' : '\\' ≠ c := fun h => hslash h.symm
    have htick' : '\x60' ≠ c := fun h => htick h.symm
    simp only [List.mem_cons, hslash', htick', false_or]

/-- Escaping and making interpolations puts no opening brace in front. -/
theorem head?_interpolated_escapeTemplate {binding? : List Char → Option (List Char)}
    {cs : List Char}
    (h : (interpolated binding? (escapeTemplate cs)).head? = some '\x7b') :
    cs.head? = some '\x7b' := by
  have hnothing : ([] : List Char).head? = some '\x7b' → ([] : List Char).head? = some '\x7b' := id
  rw [← List.append_nil (interpolated _ _)] at h
  have hescaped := head?_interpolated hnothing h
  rw [flatMap_whole_pieces, List.append_nil] at hescaped
  exact head?_escapeTemplate hescaped

/-! ### Cutting a path at a placeholder -/

/-- An opening brace begins anew, whatever stood before it. -/
theorem piecesFrom_append_brace (opened : Option (List Char)) (cs ds : List Char) :
    piecesFrom opened (cs ++ '\x7b' :: ds) = piecesFrom opened cs ++ piecesFrom (some []) ds := by
  fun_induction piecesFrom opened cs with
  | case1 => rfl
  | case2 name => simp [piecesFrom]
  | case3 cs ih => simp [piecesFrom, ih]
  | case4 c cs hopen ih => simp [piecesFrom, hopen, ih]
  | case5 cs name ih => simp [piecesFrom, ih]
  | case6 cs name hopen hnone ih => simp_all [piecesFrom]
  | case7 cs name hopen hsome ih => simp_all [piecesFrom]
  | case8 c cs name hopen hclose ih => simp_all [piecesFrom]

/-- A name up to a closing brace is a placeholder. -/
theorem piecesFrom_name {name : List Char} (hopen : '\x7b' ∉ name) (hclose : '\x7d' ∉ name)
    (cs : List Char) : ∀ before, before ++ name ≠ [] →
      piecesFrom (some before) (name ++ '\x7d' :: cs)
        = .placeholder (before.reverse ++ name) :: pieces cs := by
  induction name with
  | nil =>
    intro before hne
    simp_all [piecesFrom, pieces]
  | cons c name ih =>
    intro before _
    obtain ⟨hc, hopen⟩ := List.ne_and_not_mem_of_not_mem_cons hopen
    obtain ⟨hc', hclose⟩ := List.ne_and_not_mem_of_not_mem_cons hclose
    rw [List.cons_append, piecesFrom, if_neg (Ne.symm hc), if_neg (Ne.symm hc'),
      ih hopen hclose _ (by simp), List.reverse_cons, List.append_assoc, List.singleton_append]

section

variable {binding? nameOf? : List Char → Option (List Char)}

/-- A text with a placeholder is made into what its parts are made into. -/
theorem interpolated_placeholder {name : List Char} (hne : name ≠ []) (hopen : '\x7b' ∉ name)
    (hclose : '\x7d' ∉ name) (before after : List Char) :
    interpolated binding? (before ++ Piece.whole (.placeholder name) ++ after)
      = interpolated binding? before ++ Piece.interpolated binding? (.placeholder name)
        ++ interpolated binding? after := by
  have htext : before ++ Piece.whole (.placeholder name) ++ after
      = before ++ '\x7b' :: (name ++ '\x7d' :: after) := by
    simp [Piece.whole]
  rw [htext, interpolated, pieces, piecesFrom_append_brace,
    piecesFrom_name hopen hclose after [] (by simpa using hne), List.flatMap_append,
    List.flatMap_cons, List.reverse_nil, List.nil_append, List.append_assoc]
  rfl

end

/-! ### Reading -/

/-- Two texts are read one after the other, unless an opening brace comes after a dollar sign that
ends the first. -/
theorem partsFrom_append {opened : Option (List Char)} {cs ds : List Char}
    {ts : List TemplatePart} (h : partsFrom opened cs = some ts)
    (hdollar : ts.getLast? = some (.plain '$') → ds.head? ≠ some '\x7b') :
    partsFrom opened (cs ++ ds) = (parts? ds).map (ts ++ ·) := by
  -- One part more in front: the last part stays the last one.
  have hpart : ∀ {p : TemplatePart} {cs : List Char} {ts : List TemplatePart},
      (∀ {ts}, partsFrom none cs = some ts →
        (ts.getLast? = some (.plain '$') → ds.head? ≠ some '\x7b') →
        partsFrom none (cs ++ ds) = (parts? ds).map (ts ++ ·)) →
      (partsFrom none cs).map (p :: ·) = some ts →
      (ts.getLast? = some (.plain '$') → ds.head? ≠ some '\x7b') →
      (partsFrom none (cs ++ ds)).map (p :: ·) = (parts? ds).map (ts ++ ·) := by
    intro p cs ts ih h hdollar
    obtain ⟨rest, hrest, rfl⟩ := Option.map_eq_some_iff.mp h
    rw [ih hrest fun hlast => hdollar (by rw [List.getLast?_cons, hlast]; rfl), Option.map_map]
    rfl
  fun_induction partsFrom opened cs generalizing ts with
  | case1 =>
    cases h
    simp [parts?]
  | case2 => cases h
  | case3 name cs ih =>
    rw [List.cons_append, partsFrom, if_pos rfl]
    exact hpart ih h hdollar
  | case4 name c cs hclose ih =>
    rw [List.cons_append, partsFrom, if_neg hclose]
    exact ih h hdollar
  | case5 c cs ih => exact hpart ih h hdollar
  | case6 => cases h
  | case7 => cases h
  | case8 cs ih => exact ih h hdollar
  | case9 c cs hpair hslash htick hopen ih =>
    have hne : c ≠ '\\' := fun hc => by
      cases cs with
      | nil => exact hslash hc rfl
      | cons d cs => exact hpair d cs hc rfl
    refine (parts?_cons hne htick fun hc hhead => ?_).trans (hpart ih h hdollar)
    cases cs with
    | nil =>
      cases h
      exact hdollar (hc ▸ rfl) hhead
    | cons d cs => exact hopen cs hc (congrArg (· :: cs) (Option.some.inj hhead))

/-- Two texts are read one after the other, unless an opening brace comes after a dollar sign that
ends the first. -/
theorem parts?_append {cs ds : List Char} {ts : List TemplatePart} (h : parts? cs = some ts)
    (hdollar : ts.getLast? = some (.plain '$') → ds.head? ≠ some '\x7b') :
    parts? (cs ++ ds) = (parts? ds).map (ts ++ ·) :=
  partsFrom_append h hdollar

section

variable {name : List Char}

/-- A placeholder is escaped by escaping its name. -/
theorem escapeTemplate_whole (name : List Char) :
    escapeTemplate (Piece.whole (.placeholder name))
      = Piece.whole (.placeholder (escapeTemplate name)) := by
  have hclose : (['\x7d'] : List Char).head? ≠ some '\x7b' := by decide
  rw [Piece.whole, List.append_assoc, List.singleton_append, escapeTemplate,
    escapeTemplate_append _ hclose]
  · rfl
  · decide
  · decide
  · decide

/-- A path with a placeholder is escaped by escaping what stands before it, its name and what comes
after it. -/
theorem exists_escapeTemplate_around (before name after : List Char) :
    ∃ escaped, literal? escaped = some before ∧
      escapeTemplate (before ++ Piece.whole (.placeholder name) ++ after)
        = escaped ++ Piece.whole (.placeholder (escapeTemplate name)) ++ escapeTemplate after := by
  obtain ⟨escaped, heq, hread, -⟩ := exists_escapeTemplate_before before
  refine ⟨escaped, hread, ?_⟩
  have hbefore : (before ++ ['\x7b']).getLast? = some '$' →
      (name ++ ['\x7d'] ++ after).head? ≠ some '\x7b' := by simp
  have hname : (name ++ ['\x7d']).getLast? = some '$' → after.head? ≠ some '\x7b' := by simp
  have hclose : (['\x7d'] : List Char).head? ≠ some '\x7b' := by decide
  calc escapeTemplate (before ++ Piece.whole (.placeholder name) ++ after)
      = escapeTemplate ((before ++ ['\x7b']) ++ (name ++ ['\x7d'] ++ after)) := by
        simp [Piece.whole]
    _ = (escaped ++ ['\x7b'])
          ++ (escapeTemplate name ++ escapeTemplate ['\x7d'] ++ escapeTemplate after) := by
        rw [escapeTemplate_append_of _ hbefore, heq, escapeTemplate_append_of _ hname,
          escapeTemplate_append _ hclose]
    _ = escaped ++ Piece.whole (.placeholder (escapeTemplate name)) ++ escapeTemplate after := by
        simp [Piece.whole, escapeTemplate]

variable {binding? nameOf? : List Char → Option (List Char)}

/-- A placeholder whose name is not known is read as it is escaped, whatever comes next. -/
theorem reads_unknown (nameOf? : List Char → Option (List Char)) (name next : List Char) :
    ∃ middle, parts? (Piece.whole (.placeholder (escapeTemplate name)) ++ next)
        = (parts? next).map (middle ++ ·) ∧
      middle.flatMap (TemplatePart.restored nameOf?)
        = Piece.whole (.placeholder (escapeTemplate name)) ∧
      ∀ b, .interpolation b ∉ middle := by
  have hescaped : Escaped (Piece.whole (.placeholder (escapeTemplate name)) ++ []) := by
    rw [List.append_nil, ← escapeTemplate_whole]
    exact escaped_escapeTemplate _
  have hnone : ∀ name b : List Char, none = some b → '\x7d' ∉ b ∧ nameOf? b = some name :=
    fun _ _ h => nomatch h
  obtain ⟨middle, hmiddle, hinner, hrestored⟩ := parts?_interpolated hnone hescaped
  rw [interpolated, pieces, piecesFrom, List.flatMap_nil, List.append_nil] at hmiddle
  rw [List.append_nil] at hrestored
  refine ⟨middle, parts?_append hmiddle fun hlast => ?_, hrestored, fun b hb => ?_⟩
  · -- The last part is the closing brace.
    obtain ⟨rest, rfl⟩ := List.getLast?_eq_some_iff.mp hlast
    have hend := congrArg List.getLast? hrestored
    rw [List.flatMap_append, Piece.whole, List.getLast?_concat] at hend
    simp [TemplatePart.restored, TemplatePart.written] at hend
  · obtain ⟨_, h⟩ := hinner b hb
    cases h

/-- A placeholder, whether its name is known or not, is read for itself, whatever comes next. -/
theorem reads_placeholder
    (hname : ∀ name b, binding? name = some b → '\x7d' ∉ b ∧ nameOf? b = some name)
    (name next : List Char) :
    ∃ middle, parts? (Piece.interpolated binding? (.placeholder (escapeTemplate name)) ++ next)
        = (parts? next).map (middle ++ ·) ∧
      middle.flatMap (TemplatePart.restored nameOf?)
        = Piece.whole (.placeholder (escapeTemplate name)) ∧
      (∀ b, binding? (escapeTemplate name) = some b → middle = [.interpolation b]) ∧
      (binding? (escapeTemplate name) = none → ∀ b, .interpolation b ∉ middle) := by
  cases hb : binding? (escapeTemplate name) with
  | some b =>
    obtain ⟨hb', hback⟩ := hname _ b hb
    refine ⟨[.interpolation b], ?_, ?_, fun c hc => ?_, by simp⟩
    · rw [Piece.interpolated, hb]
      exact parts?_interpolation hb' next
    · rw [List.flatMap_cons, List.flatMap_nil, List.append_nil, TemplatePart.restored, hback]
    · rw [Option.some.inj hc]
  | none =>
    obtain ⟨middle, hmiddle, hwhole, hinner⟩ := reads_unknown nameOf? name next
    refine ⟨middle, ?_, hwhole, by simp, fun _ => hinner⟩
    rw [Piece.interpolated, hb]
    exact hmiddle

/-- **A path is read around a placeholder**: first what stands before it, then the placeholder, then
what comes after it.  The placeholder is an interpolation if and only if its name, as it is escaped,
is known. -/
theorem reads_around
    (hname : ∀ name b, binding? name = some b → '\x7d' ∉ b ∧ nameOf? b = some name)
    (hne : name ≠ []) (hopen : '\x7b' ∉ name) (hclose : '\x7d' ∉ name) (before after : List Char) :
    ∃ xs middle ys,
      parts? (interpolated binding?
          (escapeTemplate (before ++ Piece.whole (.placeholder name) ++ after)))
        = some (xs ++ middle ++ ys) ∧
      literal? (xs.flatMap (TemplatePart.restored nameOf?)) = some before ∧
      literal? (middle.flatMap (TemplatePart.restored nameOf?))
        = some (Piece.whole (.placeholder name)) ∧
      literal? (ys.flatMap (TemplatePart.restored nameOf?)) = some after ∧
      (∀ b, binding? (escapeTemplate name) = some b → middle = [.interpolation b]) ∧
      (binding? (escapeTemplate name) = none → ∀ b, .interpolation b ∉ middle) := by
  obtain ⟨escaped, hread, htext⟩ := exists_escapeTemplate_around before name after
  have hne' : escapeTemplate name ≠ [] := fun h => by
    have hle := length_le_length_escapeTemplate name
    rw [h] at hle
    exact hne (List.length_eq_zero_iff.mp (Nat.le_zero.mp hle))
  have hopen' : '\x7b' ∉ escapeTemplate name := fun h =>
    hopen (mem_of_mem_escapeTemplate h (by decide))
  have hclose' : '\x7d' ∉ escapeTemplate name := fun h =>
    hclose (mem_of_mem_escapeTemplate h (by decide))
  -- From the end to the front, since each part is read before what comes next.
  have hescaped : Escaped ([] ++ escapeTemplate after) := escaped_escapeTemplate after
  obtain ⟨ys, hys, -, hafter⟩ := parts?_interpolated hname hescaped
  rw [List.nil_append] at hys hafter
  obtain ⟨middle, hmiddle, hwhole, hsome, hnone⟩ :=
    reads_placeholder hname name (interpolated binding? (escapeTemplate after))
  have hescaped' : Escaped
      (escaped ++ (Piece.whole (.placeholder (escapeTemplate name)) ++ escapeTemplate after)) := by
    rw [← List.append_assoc, ← htext]
    exact escaped_escapeTemplate _
  obtain ⟨xs, hxs, -, hbefore⟩ := parts?_interpolated_append
    (Piece.interpolated binding? (.placeholder (escapeTemplate name))
      ++ interpolated binding? (escapeTemplate after))
    hname (by simp [Piece.whole]) (by simp [Piece.whole]) hescaped'
  refine ⟨xs, middle, ys, ?_, ?_, ?_, ?_, hsome, hnone⟩
  · rw [htext, interpolated_placeholder hne' hopen' hclose', List.append_assoc, hxs, hmiddle, hys,
      Option.map_some, Option.map_some, List.append_assoc]
  · rw [hbefore, hread]
  · rw [hwhole, ← escapeTemplate_whole, literal?_escapeTemplate]
  · rw [hafter, literal?_escapeTemplate]

end

end ServerActions.TypeScript
