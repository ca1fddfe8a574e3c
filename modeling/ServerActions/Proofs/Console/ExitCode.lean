import ServerActions.Proofs.Console.Markup
import ServerActions.Proofs.Generation.Written
import ServerActions.Proofs.Text.Numeral

/-!
# Exit codes

Descriptions are generated for one after the other, up to the first that fails.  What is said of a
description on the way is text with markup, in which its source and its output stand as they are; a
tag in them that closes what is not open ends the program like a failure.  So the exit code is zero
exactly if every description succeeds and all that is said of it can be printed.  Where sources and
outputs have no closing tags it tells whether every description succeeds.

## Main definitions

* `Started`, `Reported` — what is said before and after a description can be printed.
* `Run.own` — what comes of a description for itself.
* `Run.Succeeds` — a description succeeds.
* `Run.Completes`, `Run.StopsAt` — it does and all is said of it, or the program stops at it.
* `Run.Each` — one of these holds of several descriptions in turn.

## Main results

* `generate_exitCode` — **what the exit code says**, and which files there are then.
-/

namespace ServerActions.Console

open Files (Tree)
open Generation (Generator)

/-! ### What is said of a description -/

section

variable {s : DocumentSettings} {count : Nat}

/-- What is said before a description can be printed. -/
def Started (s : DocumentSettings) : Prop :=
  ∃ text, progressText (startText s) = .ok text

/-- What is said after a description can be printed. -/
def Reported (s : DocumentSettings) (count : Nat) : Prop :=
  (∃ text, progressText (endText s) = .ok text) ∧ ∃ text, plainText (successText s count) = .ok text

/-- The tag in which it is said how far a description has come. -/
def progressTag : OpenTag := .ofTag "progress.description".toList

/-- How far a description has come is said in a tag of its own. -/
theorem progressText_iff {text : String} :
    (∃ cs, progressText text = .ok cs) ↔ Printable [progressTag] text.toList := by
  have htag : tagAt ("[progress.description]".toList ++ text.toList)
      = some ("progress.description".toList, text.toList) := rfl
  rw [progressText, plainText_iff, String.toList_append]
  exact printable_opening htag (by decide)

/-- The source and the output stand in what is said before a description. -/
theorem started_iff : Started s ↔ Printable [progressTag]
    (s.source.toList ++ (" in ".toList ++ (s.output.toList ++ "...".toList))) := by
  have htext : (startText s).toList = "Generating server actions for ".toList
      ++ (s.source.toList ++ (" in ".toList ++ (s.output.toList ++ "...".toList))) := by
    unfold startText
    simp only [String.toList_append, List.append_assoc]
  have hplain : Unmarked "Generating server actions for ".toList := by decide
  refine progressText_iff.trans ?_
  rw [htext, printable_plain_append hplain]

/-- The output stands at the end of what is said of the functions, after a tag that is closed
again. -/
theorem successText_iff : (∃ cs, plainText (successText s count) = .ok cs) ↔
    Printable [] s.output.toList := by
  have htext : (successText s count).toList
      = "[green]".toList ++ ("Successfully generated ".toList ++ ((toString count).toList
        ++ (" server actions".toList ++ ("[/green]".toList ++ (" in ".toList
          ++ s.output.toList))))) := by
    have hlast : " server actions[/green] in "
        = " server actions" ++ ("[/green]" ++ " in ") := rfl
    have hfirst : "[green]Successfully generated " = "[green]" ++ "Successfully generated " := rfl
    unfold successText
    rw [hfirst, hlast]
    simp only [String.toList_append, List.append_assoc]
  have hcount : Unmarked (toString count).toList :=
    unmarked_of_forall (fun _ => Text.isDigit_of_mem_toString) rfl rfl
  have hopening : ∀ cs, tagAt ("[green]".toList ++ cs) = some ("green".toList, cs) := fun _ => rfl
  have hclosing : ∀ cs, tagAt ("[/green]".toList ++ cs) = some ('/' :: "green".toList, cs) :=
    fun _ => rfl
  have hsuccess : Unmarked "Successfully generated ".toList := by decide
  have hactions : Unmarked " server actions".toList := by decide
  have hin : Unmarked " in ".toList := by decide
  rw [plainText_iff, htext, printable_opening (hopening _) (by decide),
    printable_plain_append hsuccess, printable_plain_append hcount,
    printable_plain_append hactions,
    printable_closing (hclosing _) (by decide) (by decide) (by decide),
    printable_plain_append hin]

/-- What is said after a description can be printed if its source can and its output can, whatever
the number of functions. -/
theorem reported_iff : Reported s count ↔
    Printable [progressTag] (s.source.toList ++ "!".toList) ∧ Printable [] s.output.toList := by
  have htext : (endText s).toList
      = "Code generation completed for ".toList ++ (s.source.toList ++ "!".toList) := by
    unfold endText
    simp only [String.toList_append, List.append_assoc]
  have hplain : Unmarked "Code generation completed for ".toList := by decide
  refine and_congr (progressText_iff.trans ?_) successText_iff
  rw [htext, printable_plain_append hplain]

/-- Neither the source nor the output has a closing tag. -/
structure Untagged (s : DocumentSettings) : Prop where
  source : ¬ HasClosing s.source.toList
  output : ¬ HasClosing s.output.toList

/-- All is said of a description whose source and output have no closing tags. -/
theorem Untagged.announced (h : Untagged s) (count : Nat) : Started s ∧ Reported s count := by
  have hin : ¬ HasClosing " in ".toList := not_hasClosing_of_not_mem (by decide)
  have hdots : ¬ HasClosing "...".toList := not_hasClosing_of_not_mem (by decide)
  have hmark : ¬ HasClosing "!".toList := not_hasClosing_of_not_mem (by decide)
  have hend : ¬ HasClosing (s.output.toList ++ "...".toList) :=
    not_hasClosing_append h.output hdots (Or.inr (by decide))
  have hmiddle : ¬ HasClosing (" in ".toList ++ (s.output.toList ++ "...".toList)) :=
    not_hasClosing_append hin hend (Or.inl (by decide))
  have hstart : ¬ HasClosing
      (s.source.toList ++ (" in ".toList ++ (s.output.toList ++ "...".toList))) :=
    not_hasClosing_append h.source hmiddle (Or.inr (by simp))
  have hending : ¬ HasClosing (s.source.toList ++ "!".toList) :=
    not_hasClosing_append h.source hmark (Or.inr (by decide))
  exact ⟨started_iff.mpr (printable_of_not_hasClosing hstart), reported_iff.mpr
    ⟨printable_of_not_hasClosing hending, printable_of_not_hasClosing h.output⟩⟩

end

/-! ### One description -/

section

variable {r : Run} {t t' t₁ : Tree} {p : Progress} {s : DocumentSettings}
  {ss before after : List DocumentSettings} {e : Failure} {written : List String}

/-- What comes of a description for itself: the locations of its functions, and the files
afterwards. -/
def Run.own (r : Run) (t : Tree) (s : DocumentSettings) : Except Failure (List String) × Tree :=
  let cwd := r.surroundings.cwd
  let out := (Generator.new s).generate (Loading.load r.fetch t cwd ⟨"/", cwd⟩) Output.inDirectory
    ⟨Files.Path.ofText s.output, s.fileExtension, [], t, cwd⟩
  (out.1.result, out.2.tree)

/-- The description succeeds and all is said of it. -/
structure Run.Completes (r : Run) (t : Tree) (s : DocumentSettings) : Prop where
  started : Started s
  succeeds : ∃ written, (r.own t s).1 = .ok written ∧ Reported s written.length

/-- The program stops at a description, and leaves these files. -/
inductive Run.StopsAt (r : Run) (t : Tree) (s : DocumentSettings) : Tree → Prop
  /-- It cannot be said that it starts, and nothing is done. -/
  | unstarted (h : ¬ Started s) : StopsAt r t s t
  /-- It fails. -/
  | failed {e : Failure} (hstarted : Started s) (h : (r.own t s).1 = .error e) :
    StopsAt r t s (r.own t s).2
  /-- It succeeds, and that cannot be said. -/
  | unreported {written : List String} (hstarted : Started s) (hown : (r.own t s).1 = .ok written)
    (h : ¬ Reported s written.length) : StopsAt r t s (r.own t s).2

/-- The program goes on after a description or stops at it. -/
theorem completes_or_stopsAt (r : Run) (t : Tree) (s : DocumentSettings) :
    r.Completes t s ∨ ∃ t', r.StopsAt t s t' := by
  by_cases hstarted : Started s
  · cases hown : (r.own t s).1 with
    | error e => exact Or.inr ⟨_, .failed hstarted hown⟩
    | ok written =>
      by_cases hreported : Reported s written.length
      · exact Or.inl ⟨hstarted, written, hown, hreported⟩
      · exact Or.inr ⟨_, .unreported hstarted hown hreported⟩
  · exact Or.inr ⟨t, .unstarted hstarted⟩

/-- All that is said after a description is printed, or the program ends. -/
theorem finish_spec (r : Run) (s : DocumentSettings) (written : List String) (p : Progress) :
    (r.finish s written p).tree = p.tree ∧
      (Reported s written.length → (r.finish s written p).goesOn = p.goesOn) ∧
      (¬ Reported s written.length → (r.finish s written p).goesOn = false) := by
  unfold Run.finish Reported
  cases hend : progressText (endText s) with
  | error f => exact ⟨rfl, fun ⟨⟨_, h⟩, _⟩ => (nomatch h), fun _ => rfl⟩
  | ok text =>
    dsimp only
    cases hsuccess : plainText (successText s written.length) with
    | error f => exact ⟨rfl, fun ⟨_, _, h⟩ => (nomatch h), fun _ => rfl⟩
    | ok text' => exact ⟨rfl, fun _ => rfl, fun h => absurd ⟨⟨text, rfl⟩, text', rfl⟩ h⟩

/-- A description that completes leaves the files of its own run, and the program goes on. -/
theorem Run.Completes.document (h : r.Completes p.tree s) :
    (r.document p s).goesOn = p.goesOn ∧ (r.document p s).tree = (r.own p.tree s).2 := by
  obtain ⟨text, hstarted⟩ := h.started
  obtain ⟨written, hown, hreported⟩ := h.succeeds
  unfold Run.own at hown
  unfold Run.document Run.own
  rw [hstarted]
  dsimp only at hown ⊢
  rw [hown]
  obtain ⟨htree, hgoes, -⟩ := finish_spec r s written _
  exact ⟨hgoes hreported, htree⟩

/-- At a description at which the program stops it does not go on. -/
theorem Run.StopsAt.document (h : r.StopsAt p.tree s t') :
    (r.document p s).goesOn = false ∧ (r.document p s).tree = t' := by
  cases h with
  | unstarted h =>
    unfold Run.document
    cases hstarted : progressText (startText s) with
    | error f => exact ⟨rfl, rfl⟩
    | ok text => exact absurd ⟨text, hstarted⟩ h
  | failed hstarted h =>
    obtain ⟨text, hstarted⟩ := hstarted
    unfold Run.own at h
    unfold Run.document Run.own
    rw [hstarted]
    dsimp only at h ⊢
    rw [h]
    exact ⟨rfl, rfl⟩
  | @unreported written hstarted hown h =>
    obtain ⟨text, hstarted⟩ := hstarted
    unfold Run.own at hown
    unfold Run.document Run.own
    rw [hstarted]
    dsimp only at hown ⊢
    rw [hown]
    obtain ⟨htree, -, hstops⟩ := finish_spec r s written _
    exact ⟨hstops h, htree⟩

/-! ### Several descriptions -/

/-- Descriptions one after the other, each with a property where the one before it left the files,
and the files after the own runs of all of them. -/
inductive Run.Each (r : Run) (P : Tree → DocumentSettings → Prop) :
    List DocumentSettings → Tree → Tree → Prop
  | nil {t : Tree} : Each r P [] t t
  | cons {t t' : Tree} {s : DocumentSettings} {ss : List DocumentSettings} (h : P t s)
    (hrest : Each r P ss (r.own t s).2 t') : Each r P (s :: ss) t t'

variable {P Q : Tree → DocumentSettings → Prop}

theorem Run.Each.imp (h : r.Each P ss t t') (himp : ∀ t, ∀ s ∈ ss, P t s → Q t s) :
    r.Each Q ss t t' := by
  induction h with
  | nil => exact .nil
  | cons hs _ ih =>
    obtain ⟨hhead, htail⟩ := forall_and.mp fun t => List.forall_mem_cons.mp (himp t)
    exact .cons (hhead _ hs) (ih htail)

/-- Either all descriptions have the property, or there is a first one that has not. -/
theorem each_or_first (r : Run) (P : Tree → DocumentSettings → Prop) (ss : List DocumentSettings)
    (t : Tree) : (∃ t', r.Each P ss t t') ∨ ∃ before s after t₁,
      ss = before ++ s :: after ∧ r.Each P before t t₁ ∧ ¬ P t₁ s := by
  induction ss generalizing t with
  | nil => exact Or.inl ⟨t, .nil⟩
  | cons s ss ih =>
    by_cases hs : P t s
    · rcases ih (r.own t s).2 with ⟨t', h⟩ | ⟨before, s', after, t₁, rfl, hbefore, h⟩
      · exact Or.inl ⟨t', .cons hs h⟩
      · exact Or.inr ⟨s :: before, s', after, t₁, rfl, .cons hs hbefore, h⟩
    · exact Or.inr ⟨[], s, ss, t, rfl, .nil, hs⟩

/-- The first description without the property is the only first one. -/
theorem Run.Each.first_unique {before' after' : List DocumentSettings} {s' : DocumentSettings}
    {t₁' : Tree} (h : r.Each P before t t₁) (hs : ¬ P t₁ s) (h' : r.Each P before' t t₁')
    (hs' : ¬ P t₁' s') (heq : before ++ s :: after = before' ++ s' :: after') :
    before = before' ∧ s = s' ∧ t₁ = t₁' := by
  -- Where one of the two comes earlier, it stands among those before the other, which have `P`.
  induction h generalizing before' with
  | nil =>
    cases h' with
    | nil => exact ⟨rfl, List.head_eq_of_cons_eq heq, rfl⟩
    | cons hp _ => exact absurd (List.head_eq_of_cons_eq heq ▸ hp) hs
  | cons hp _ ih =>
    cases h' with
    | nil => exact absurd (List.head_eq_of_cons_eq heq ▸ hp) hs'
    | cons _ hrest' =>
      obtain ⟨rfl, htail⟩ := List.cons.inj heq
      obtain ⟨rfl, hsame⟩ := ih hs hrest' htail
      exact ⟨rfl, hsame⟩

/-- After the end nothing is done any more. -/
theorem documents_of_not_goesOn (h : p.goesOn = false) : r.documents p ss = p := by
  induction ss with
  | nil => rfl
  | cons s ss ih =>
    rw [Run.documents, List.foldl_cons, h]
    exact ih

theorem documents_cons (h : p.goesOn = true) :
    r.documents p (s :: ss) = r.documents (r.document p s) ss := by
  rw [Run.documents, Run.documents, List.foldl_cons, if_pos h]

/-- Descriptions that complete leave the files of their own runs, and the program goes on. -/
theorem Run.Each.documents (h : r.Each r.Completes ss t t') (hgoes : p.goesOn = true)
    (htree : p.tree = t) :
    (r.documents p ss).goesOn = true ∧ (r.documents p ss).tree = t' := by
  induction h generalizing p with
  | nil => exact ⟨hgoes, htree⟩
  | cons hs _ ih =>
    subst htree
    obtain ⟨hnext, hleaves⟩ := hs.document
    rw [documents_cons hgoes]
    exact ih (hnext.trans hgoes) hleaves

/-- Where the program stops, the descriptions after that make no difference. -/
theorem Run.StopsAt.documents (after : List DocumentSettings)
    (hbefore : r.Each r.Completes before t t₁) (h : r.StopsAt t₁ s t')
    (hgoes : p.goesOn = true) (htree : p.tree = t) :
    (r.documents p (before ++ s :: after)).goesOn = false ∧
      (r.documents p (before ++ s :: after)).tree = t' ∧
      r.documents p (before ++ s :: after) = r.documents p (before ++ [s]) := by
  -- When the description is reached, the program goes on and has the files of those before it.
  obtain ⟨hlater, rfl⟩ := hbefore.documents hgoes htree
  obtain ⟨hstops, hleaves⟩ := h.document
  have hsplit : ∀ after, r.documents p (before ++ s :: after)
      = r.document (r.documents p before) s := by
    intro after
    have happend : r.documents p (before ++ s :: after)
        = r.documents (r.documents p before) (s :: after) := List.foldl_append
    rw [happend, documents_cons hlater, documents_of_not_goesOn hstops]
  rw [hsplit after, hsplit []]
  exact ⟨hstops, hleaves, rfl⟩

/-! ### The whole program -/

/-- What comes of generating for several descriptions. -/
def Run.report (r : Run) (ss : List DocumentSettings) : Report :=
  let final := r.documents ⟨[], r.surroundings.tree, true⟩ ss
  ⟨if final.goesOn then 0 else failureCode, final.lines, final.tree⟩

theorem generate_eq {o : Options} {settings : Settings}
    (h : settingsFor r.surroundings o = .ok settings) :
    r.generate o = r.report settings.documents := by
  rw [Run.generate, h]
  rfl

theorem Run.Each.report (h : r.Each r.Completes ss r.surroundings.tree t') :
    (r.report ss).exitCode = 0 ∧ (r.report ss).tree = t' := by
  obtain ⟨hgoes, htree⟩ := h.documents (p := ⟨[], r.surroundings.tree, true⟩) rfl rfl
  exact ⟨if_pos hgoes, htree⟩

theorem Run.StopsAt.report (after : List DocumentSettings)
    (hbefore : r.Each r.Completes before r.surroundings.tree t₁) (h : r.StopsAt t₁ s t') :
    (r.report (before ++ s :: after)).exitCode = failureCode ∧
      (r.report (before ++ s :: after)).tree = t' ∧
      r.report (before ++ s :: after) = r.report (before ++ [s]) := by
  obtain ⟨hstops, htree, hsame⟩ :=
    h.documents (p := ⟨[], r.surroundings.tree, true⟩) after hbefore rfl rfl
  refine ⟨if_neg (by rw [hstops]; decide), htree, ?_⟩
  unfold Run.report
  rw [hsame]

/-- Either every description completes, or there is one at which the program stops. -/
theorem Run.report_cases (r : Run) (ss : List DocumentSettings) :
    ((r.report ss).exitCode = 0 ∧ ∃ t', r.Each r.Completes ss r.surroundings.tree t') ∨
      ((r.report ss).exitCode = 1 ∧ ∃ before s after t₁, ss = before ++ s :: after ∧
        r.Each r.Completes before r.surroundings.tree t₁ ∧ r.StopsAt t₁ s (r.report ss).tree ∧
          r.report ss = r.report (before ++ [s])) := by
  rcases each_or_first r r.Completes ss r.surroundings.tree with
    ⟨t', heach⟩ | ⟨before, s, after, t₁, rfl, hbefore, hnot⟩
  · exact Or.inl ⟨heach.report.1, t', heach⟩
  · obtain ⟨t', hstop⟩ := (completes_or_stopsAt r t₁ s).resolve_left hnot
    obtain ⟨hcode, htree, hsame⟩ := hstop.report after hbefore
    exact Or.inr ⟨hcode, before, s, after, t₁, rfl, hbefore, htree ▸ hstop, hsame⟩

theorem Run.report_exitCode_eq_zero_iff :
    (r.report ss).exitCode = 0 ↔ ∃ t', r.Each r.Completes ss r.surroundings.tree t' := by
  refine ⟨fun hcode => ?_, fun ⟨_, heach⟩ => heach.report.1⟩
  rcases r.report_cases ss with ⟨-, heach⟩ | ⟨hone, -⟩
  · exact heach
  · rw [hcode] at hone
    cases hone

/-- The description succeeds for itself. -/
def Run.Succeeds (r : Run) (t : Tree) (s : DocumentSettings) : Prop :=
  ∃ written, (r.own t s).1 = .ok written

/-- A description without closing tags completes if it succeeds. -/
theorem Untagged.completes_iff (h : Untagged s) : r.Completes t s ↔ r.Succeeds t s := by
  constructor
  · rintro ⟨-, written, hown, -⟩
    exact ⟨written, hown⟩
  · rintro ⟨written, hown⟩
    obtain ⟨hstarted, hreported⟩ := h.announced written.length
    exact ⟨hstarted, written, hown, hreported⟩

/-- The program stops at a description without closing tags only if that fails. -/
theorem Untagged.own_of_stopsAt (h : Untagged s) (hstops : r.StopsAt t s t') :
    ∃ e, (r.own t s).1 = .error e ∧ t' = (r.own t s).2 := by
  cases hstops with
  | unstarted hnot => exact absurd (h.announced 0).1 hnot
  | @failed e hstarted hown => exact ⟨e, hown, rfl⟩
  | unreported hstarted hown hnot => exact absurd (h.announced _).2 hnot

/-- **What the exit code says.**  It is zero if and only if every description succeeds and all that
is said of it can be printed; the files are those that their own runs leave one after the other.
Otherwise it is one: the descriptions before one of them complete, the program stops at that one,
and everything is as if those after it were not there.  Where no source and no output has a closing
tag, the program stops only at a description that fails. -/
theorem generate_exitCode (r : Run) (o : Options) (settings : Settings)
    (h : settingsFor r.surroundings o = .ok settings) :
    let report := r.generate o
    let ss := settings.documents
    let t := r.surroundings.tree
    (report.exitCode = 0 ↔ ∃ t', r.Each r.Completes ss t t') ∧
      (∀ t', r.Each r.Completes ss t t' → report.tree = t') ∧
      (report.exitCode ≠ 0 → report.exitCode = 1 ∧ ∃ before s after t₁,
        ss = before ++ s :: after ∧ r.Each r.Completes before t t₁ ∧
          r.StopsAt t₁ s report.tree ∧ report = r.report (before ++ [s])) ∧
      ((∀ s ∈ ss, Untagged s) → (report.exitCode = 0 ↔ ∃ t', r.Each r.Succeeds ss t t') ∧
        (report.exitCode ≠ 0 → report.exitCode = 1 ∧ ∃ before s after t₁ e,
          ss = before ++ s :: after ∧ r.Each r.Succeeds before t t₁ ∧
            (r.own t₁ s).1 = .error e ∧ report.tree = (r.own t₁ s).2 ∧
              report = r.report (before ++ [s]))) := by
  intro report ss t
  have hreport : report = r.report ss := generate_eq h
  rw [hreport]
  have hzero : (r.report ss).exitCode = 0 ↔ ∃ t', r.Each r.Completes ss t t' :=
    r.report_exitCode_eq_zero_iff
  have hstops := fun hne : (r.report ss).exitCode ≠ 0 =>
    (r.report_cases ss).resolve_left fun hall => hne hall.1
  -- Without closing tags a description completes exactly when it succeeds.
  refine ⟨hzero, fun t' heach => heach.report.2, hstops, fun huntagged => ⟨?_, fun hne => ?_⟩⟩
  · refine hzero.trans (exists_congr fun t' => ⟨fun heach => ?_, fun heach => ?_⟩)
    · exact heach.imp fun t s hs => (huntagged s hs).completes_iff.mp
    · exact heach.imp fun t s hs => (huntagged s hs).completes_iff.mpr
  · obtain ⟨hcode, before, s, after, t₁, heq, hbefore, hstop, hsame⟩ := hstops hne
    have hs : Untagged s := huntagged s (heq ▸ List.mem_append_right _ List.mem_cons_self)
    obtain ⟨e, hown, htree⟩ := hs.own_of_stopsAt hstop
    refine ⟨hcode, before, s, after, t₁, e, heq, hbefore.imp fun t s hs => ?_, hown, htree, hsame⟩
    exact (huntagged s (heq ▸ List.mem_append_left _ hs)).completes_iff.mp

end

/-- What comes of putting the octets of its functions. -/
def Run.put (r : Run) (t : Tree) (s : DocumentSettings) : Except Failure (List String) × Tree :=
  let cwd := r.surroundings.cwd
  let out := (Generator.new s).put (Loading.load r.fetch t cwd ⟨"/", cwd⟩)
    ⟨Files.Path.ofText s.output, s.fileExtension, [], t, cwd⟩
  (out.outcome, out.store.tree)

/-- The functions of a description are put as octets if all of them are plain. -/
theorem Run.own_eq_put {r : Run} {t : Tree} {s : DocumentSettings} (hplain :
    let units := ((Generator.new s).units
      (Loading.load r.fetch t r.surroundings.cwd ⟨"/", r.surroundings.cwd⟩) none).result.toOption
    units.isSome = true ∧ ∀ u ∈ units.getD [], ∀ x ∈ u.texts, Text.IsPlain x.toList) :
    r.own t s = r.put t s := by
  obtain ⟨hresult, hstore⟩ := Generation.generate_eq_put hplain.1 hplain.2
  rw [Run.own, Run.put]
  exact Prod.ext hresult (congrArg Output.Directory.tree hstore)

/-- A run in a directory with one description, which has one operation, and with settings for
three. -/
def threefoldRun : Run where
  surroundings :=
    { tree := ⟨[(["api.json"],
          .file "\x7b\"paths\": \x7b\"/a\": \x7b\"get\": \x7b\x7d\x7d\x7d\x7d".toUTF8),
        (["all.json"], .file ("\x7b\"documents\": ["
          ++ "\x7b\"source\": \"api.json\", \"output\": \"out\"\x7d, "
          ++ "\x7b\"source\": \"none.json\", \"output\": \"out\"\x7d, "
          ++ "\x7b\"source\": \"api.json\", \"output\": \"last\"\x7d]\x7d").toUTF8)]⟩
      cwd := []
      environment := [] }
  fetch := fun _ => .error .offline
  wording := .plain
  verbose := false

/-- Its first description succeeds, as its function is put. -/
theorem own_threefoldRun :
    let first := DocumentSettings.ofSource "api.json" "out"
    threefoldRun.Succeeds threefoldRun.surroundings.tree first ∧
      threefoldRun.own threefoldRun.surroundings.tree first
        = threefoldRun.put threefoldRun.surroundings.tree first := by
  intro first
  have hput : threefoldRun.own threefoldRun.surroundings.tree first
      = threefoldRun.put threefoldRun.surroundings.tree first :=
    Run.own_eq_put (by decide +kernel)
  rw [Run.Succeeds, hput]
  exact ⟨⟨["out/getA.ts"], eq_ok_of_toOption (by decide +kernel)⟩, rfl⟩

/-- Its second description is missing. -/
theorem not_succeeds_threefoldRun :
    let first := DocumentSettings.ofSource "api.json" "out"
    ¬ threefoldRun.Succeeds (threefoldRun.own threefoldRun.surroundings.tree first).2
      (DocumentSettings.ofSource "none.json" "out") := by
  rintro first ⟨written, hown⟩
  have hnone : (threefoldRun.own (threefoldRun.own threefoldRun.surroundings.tree first).2
      (DocumentSettings.ofSource "none.json" "out")).1.toOption = none := by
    rw [own_threefoldRun.2]
    decide +kernel
  rw [hown] at hnone
  cases hnone

/-- Of three descriptions the first succeeds and the second is missing: the exit code is one, the
files are those of the first, and the third is not started. -/
theorem generate_exitCode_threefold :
    let o : Options := ⟨some "all.json", none, none, false⟩
    let first := DocumentSettings.ofSource "api.json" "out"
    let missing := DocumentSettings.ofSource "none.json" "out"
    let last := DocumentSettings.ofSource "api.json" "last"
    let report := threefoldRun.generate o
    settingsFor threefoldRun.surroundings o = .ok ⟨[first, missing, last]⟩ ∧
      report.exitCode = 1 ∧ (report.tree.get? ["out", "getA.ts"]).isSome = true ∧
      report.tree.get? ["last"] = none ∧ report = threefoldRun.report [first, missing] := by
  intro o first missing last report
  have hsettings : settingsFor threefoldRun.surroundings o = .ok ⟨[first, missing, last]⟩ :=
    eq_ok_of_toOption (by decide +kernel)
  have huntagged : ∀ s ∈ [first, missing, last], Untagged s := by
    have hplain : ∀ s ∈ [first, missing, last],
        '/' ∉ s.source.toList ∧ '/' ∉ s.output.toList := by decide
    exact fun s hs => ⟨not_hasClosing_of_not_mem (hplain s hs).1,
      not_hasClosing_of_not_mem (hplain s hs).2⟩
  obtain ⟨-, -, -, huntag⟩ := generate_exitCode threefoldRun o ⟨[first, missing, last]⟩ hsettings
  obtain ⟨hzero, hstops⟩ := huntag huntagged
  obtain ⟨hsucceeds, hput⟩ := own_threefoldRun
  have hmissing := not_succeeds_threefoldRun
  -- The second description fails, so the first that fails is that one.
  have hne : report.exitCode ≠ 0 := by
    intro hcode
    obtain ⟨t', heach⟩ := hzero.mp hcode
    cases heach with
    | cons _ hrest =>
      cases hrest with
      | cons h _ => exact hmissing h
  obtain ⟨hcode, before, s, after, t₁, e, heq, hbefore, hown, htree, hsame⟩ := hstops hne
  have hs : ¬ threefoldRun.Succeeds t₁ s := by
    rintro ⟨written, hok⟩
    rw [hown] at hok
    cases hok
  obtain ⟨rfl, rfl, rfl⟩ := hbefore.first_unique hs (.cons hsucceeds .nil) hmissing heq.symm
  have hwritten : (report.tree.get? ["out", "getA.ts"]).isSome = true := by
    rw [htree, hput]
    decide +kernel
  have hlast : (report.tree.get? ["last"]).isNone = true := by
    rw [htree, hput]
    decide +kernel
  exact ⟨hsettings, hcode, hwritten, Option.isNone_iff_eq_none.mp hlast, hsame⟩

/-- A description that succeeds has the exit code of a failure where its output has a tag that
closes nothing. -/
theorem not_exitCode_of_succeeds :
    let o : Options := ⟨none, some "api.json", some "out[/]", false⟩
    let s := DocumentSettings.ofSource "api.json" "out[/]"
    settingsFor threefoldRun.surroundings o = .ok ⟨[s]⟩ ∧
      (∃ t', threefoldRun.Each threefoldRun.Succeeds [s] threefoldRun.surroundings.tree t') ∧
      (threefoldRun.generate o).exitCode = 1 := by
  intro o s
  have hsettings : settingsFor threefoldRun.surroundings o = .ok ⟨[s]⟩ := rfl
  have hown : (threefoldRun.own threefoldRun.surroundings.tree s).1 = .ok ["out[/]/getA.ts"] := by
    rw [Run.own_eq_put (by decide +kernel)]
    exact eq_ok_of_toOption (by decide +kernel)
  have hstarted : Started s := by
    have hplain : Unmarked "api.json in out".toList := by decide
    have htag : tagAt "[/]...".toList = some (['/'], "...".toList) := rfl
    have hdots : ¬ HasClosing "...".toList := not_hasClosing_of_not_mem (by decide)
    have hprint : Printable [progressTag] ("api.json in out".toList ++ "[/]...".toList) :=
      (printable_plain_append hplain).mpr ((printable_tag htag).mpr
        ⟨[], afterTag_slash.trans (closing_of_parameters rfl), printable_of_not_hasClosing hdots⟩)
    have htext : s.source.toList ++ (" in ".toList ++ (s.output.toList ++ "...".toList))
        = "api.json in out".toList ++ "[/]...".toList := by decide +kernel
    exact started_iff.mpr (htext ▸ hprint)
  have hreported : ∀ count, ¬ Reported s count := by
    intro count h
    have hplain : Unmarked "out".toList := by decide
    have htag : tagAt "[/]".toList = some (['/'], []) := rfl
    have htext : s.output.toList = "out".toList ++ "[/]".toList := by decide +kernel
    have hout : Printable [] ("out".toList ++ "[/]".toList) := htext ▸ (reported_iff.mp h).2
    obtain ⟨opened, hafter, -⟩ := (printable_tag htag).mp ((printable_plain_append hplain).mp hout)
    rw [afterTag_slash_nil] at hafter
    cases hafter
  have hstops := Run.StopsAt.unreported hstarted hown (hreported 1)
  refine ⟨hsettings, ⟨_, .cons ⟨_, hown⟩ .nil⟩, ?_⟩
  rw [generate_eq hsettings]
  exact (hstops.report [] .nil).1

end ServerActions.Console
