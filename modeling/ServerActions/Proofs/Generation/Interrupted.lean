import ServerActions.Proofs.Generation.History
import ServerActions.Proofs.Generation.Written

/-!
# Runs that fail

A run that fails leaves a prefix of its work.  All units are made before the first of them is
written, so that whatever stands in the way of a unit leaves everything as it was; and the units are
written one after the other, so that those before the first that cannot be written are there and
nothing else has changed.  The file of that one is another matter: once it is open, what was in it
is lost, and this may have been the source of a unit before.

## Main definitions

* `FailsAlone` — an operation of a description has no unit.
* `Generator.Falters` — a generator has no units, because of its source, because of an operation or
  because of names that several operations have.
* `FailsAt` — several units can be written, and the next cannot.
* `Breaks` — the file of that unit was opened, and holds the beginning of its source.
* `LeavesPrefix` — a directory after units were written into it and the next could not be.

## Main results

* `units_eq_error_iff` — when a generator has no units.
* `generate_interrupted` — **a run that fails leaves a prefix of its work**, up to the file that it
  was writing.
* `source_lost` — that file may be the one of a unit before.
-/

namespace ServerActions.Generation

open Description (Document)
open Files (Disk Trail)
open Output (Directory emitAll inDirectory inDirectoryOn octetsInDirectory)
open Reference (Run Session)

/-! ### Operations without a unit -/

section

variable {doc : Document} {s : DocumentSettings} {ds before after : List Declared} {d : Declared}
  {us : List Action.Unit} {e : Failure}

/-- The operation, compiled for itself, has no unit. -/
def FailsAlone (doc : Document) (s : DocumentSettings) (d : Declared) (e : Failure) : Prop :=
  (compile doc s d.path d.method d.operation d.item.parameters .fresh).1 = .error e

/-- Several operations fail as the first of them that has no unit. -/
theorem keeps_compileAll_of_failsAlone (after : List Declared)
    (hbefore : List.Forall₂ (Compiles doc s) before us)
    (hfails : FailsAlone doc s d e) :
    (compileAll doc s (before ++ d :: after)).Keeps (Quiet doc.raw) (· = .error e) := by
  -- In a session an operation comes to what it comes to for itself, whatever was compiled before.
  have hkeeps : ∀ d : Declared,
      (compile doc s d.path d.method d.operation d.item.parameters).Keeps (Quiet doc.raw)
        (· = (compile doc s d.path d.method d.operation d.item.parameters .fresh).1) :=
    fun d => (steady_compile d.path d.method d.operation d.item.parameters).keeps (quiet_fresh _)
  induction hbefore with
  | nil =>
    have hcompile := hkeeps d
    rw [hfails] at hcompile
    rw [List.nil_append, compileAll]
    refine hcompile.bind ?_ fun _ h => congrArg Except.error (Except.error.inj h)
    rintro _ ⟨⟩
  | @cons d' u before us hu _ ih =>
    have hcompile := hkeeps d'
    rw [hu] at hcompile
    rw [List.cons_append, compileAll]
    refine hcompile.bind (fun _ _ => ?_) ?_
    · refine ih.bind ?_ fun _ h => congrArg Except.error (Except.error.inj h)
      rintro _ ⟨⟩
    · rintro _ ⟨⟩

/-- Either all operations have their units, or there is a first one that has none. -/
theorem compiles_or_failsAlone (doc : Document) (s : DocumentSettings) (ds : List Declared) :
    (∃ us, List.Forall₂ (Compiles doc s) ds us) ∨ ∃ before d after us e,
      ds = before ++ d :: after ∧ List.Forall₂ (Compiles doc s) before us ∧
        FailsAlone doc s d e := by
  induction ds with
  | nil => exact Or.inl ⟨[], .nil⟩
  | cons d ds ih =>
    cases hd : (compile doc s d.path d.method d.operation d.item.parameters .fresh).1 with
    | error e => exact Or.inr ⟨[], d, ds, [], e, rfl, .nil, hd⟩
    | ok u =>
      rcases ih with ⟨us, hus⟩ | ⟨before, d', after, us, e, rfl, hbefore, hfails⟩
      · exact Or.inl ⟨u :: us, .cons hd hus⟩
      · exact Or.inr ⟨d :: before, d', after, u :: us, e, rfl, .cons hd hbefore, hfails⟩

end

/-! ### Generators without units -/

section

variable {g : Generator} {load : Loader} {doc : Document} {us : List Action.Unit} {e : Failure}

/-- Why a generator has no units. -/
inductive Generator.Falters (g : Generator) (load : Loader) : Failure → Prop
  /-- There is no description in use, and none can be loaded. -/
  | loading {e : Failure} (hdoc : g.document = none) (hload : load g.settings.source = .error e) :
    Falters g load e
  /-- The operations before some operation have their units, and that one has none. -/
  | operation {doc : Document} {before after : List Declared} {d : Declared}
    {us : List Action.Unit} {e : Failure} (hopens : g.Opens load doc)
    (hchosen : chosen doc g.settings = before ++ d :: after)
    (hbefore : List.Forall₂ (Compiles doc g.settings) before us)
    (hfails : FailsAlone doc g.settings d e) : Falters g load e
  /-- Several operations have one name, and that is a failure. -/
  | collision {doc : Document} {us : List Action.Unit} {name : String} {names : List String}
    (hopens : g.Opens load doc)
    (hus : List.Forall₂ (Compiles doc g.settings) (chosen doc g.settings) us)
    (hfail : g.settings.failOnCollision = true) (hnames : repeatedNames us = name :: names) :
    Falters g load (.collision name (labelsOf us name))

theorem Generator.Falters.units (h : g.Falters load e) : (g.units load none).result = .error e := by
  -- One case for each thing that can fail: the description, an operation, two names that are one.
  cases h with
  | loading hdoc hload =>
    rw [g.units_eq load none, Generator.taking, Generator.withDocument, hdoc]
    simp only [hload]
  | @operation doc before after d us e hopens hchosen hbefore hfails =>
    obtain ⟨session, hquiet, hrun⟩ := hopens.withDocument fun doc => Generation.units doc g.settings
    obtain ⟨herror, -⟩ :=
      keeps_compileAll_of_failsAlone after hbefore hfails session hquiet
    rw [g.units_eq load none, Generator.taking, hrun]
    dsimp only
    rw [Generation.units, hchosen, Run.bind_apply]
    rcases hcompiled : compileAll doc g.settings (before ++ d :: after) session with
      ⟨e' | us', later⟩
    · rw [hcompiled] at herror
      exact herror
    · rw [hcompiled] at herror
      cases herror
  | collision hopens hus hfail hnames =>
    obtain ⟨session, -, hunits⟩ := hopens.units hus
    rw [checkCollisions_of_fail hfail, hnames] at hunits
    rw [hunits]

/-- A generator in step with a description opens it, or loads one, or has none. -/
theorem InStep.opens {s : DocumentSettings} {doc? : Option Document} (h : InStep s doc? g)
    (load : Loader) : (∃ doc, g.Opens load doc) ∨
      ∃ e, g.document = none ∧ load g.settings.source = .error e := by
  have hdocument := h.document
  cases doc? with
  | some doc => exact Or.inl ⟨doc, .inUse hdocument (h.memo doc rfl)⟩
  | none =>
    cases hload : load g.settings.source with
    | ok doc => exact Or.inl ⟨doc, .loaded hdocument hload⟩
    | error e => exact Or.inr ⟨e, hdocument, rfl⟩

/-- **A generator has no units** if and only if its source, an operation or a name stands in the
way. -/
theorem units_eq_error_iff {s : DocumentSettings} {doc? : Option Document} (h : InStep s doc? g) :
    (g.units load none).result = .error e ↔ g.Falters load e := by
  refine ⟨fun herror => ?_, Generator.Falters.units⟩
  -- Whatever stands in the way is what the failure comes from.
  have hcome : ∀ e', g.Falters load e' → g.Falters load e := fun e' he' => by
    rwa [Except.error.inj (herror.symm.trans he'.units)]
  rcases h.opens load with ⟨doc, hopens⟩ | ⟨e', hdocument, hload⟩
  · rcases compiles_or_failsAlone doc g.settings (chosen doc g.settings) with
      ⟨us, hus⟩ | ⟨before, d, after, us, e', hchosen, hbefore, hfails⟩
    · obtain ⟨session, -, hunits⟩ := hopens.units hus
      cases hfail : g.settings.failOnCollision with
      | false =>
        rw [hunits, checkCollisions_of_not_fail hfail] at herror
        cases herror
      | true =>
        cases hnames : repeatedNames us with
        | nil =>
          rw [hunits, checkCollisions_of_fail hfail, hnames] at herror
          cases herror
        | cons name names => exact hcome _ (.collision hopens hus hfail hnames)
    · exact hcome _ (.operation hopens hchosen hbefore hfails)
  · exact hcome _ (.loading hdocument hload)

end

/-! ### Units that cannot be written -/

section

variable {disk : Directory → Disk} {d d' : Directory} {done rest : List Action.Unit}
  {u : Action.Unit} {e : Failure} {trail : Trail}

/-- What comes of writing units one after the other. -/
def writing (disk : Directory → Disk) (d : Directory) (us : List Action.Unit) :
    Output.Emission Directory (List String) :=
  emitAll (inDirectoryOn disk) d (us.map fun u => (u.name, u.source))

/-- What comes of writing one more unit. -/
def attempt (disk : Directory → Disk) (d : Directory) (done : List Action.Unit) (u : Action.Unit) :
    Output.Emission Directory String :=
  inDirectoryOn disk (writing disk d done).store u.name u.source

/-- Units can be written one after the other, and the next cannot. -/
structure FailsAt (disk : Directory → Disk) (d : Directory) (done : List Action.Unit)
    (u : Action.Unit) (e : Failure) : Prop where
  before : ∃ locations, (writing disk d done).outcome = .ok locations
  next : (attempt disk d done u).outcome = .error e

/-- The last of several units that have their file at the end of a trail. -/
def lastAt (d : Directory) (us : List Action.Unit) (trail : Trail) : Option Action.Unit :=
  (us.filter fun u => d.target? u.name = some trail).getLast?

/-- The file at the end of a trail was opened for a unit that cannot be encoded, or does not fit on
the disk, and holds the beginning of its source. -/
def Breaks (disk : Directory → Disk) (d d' : Directory) (done : List Action.Unit) (u : Action.Unit)
    (e : Failure) (trail : Trail) : Prop :=
  d'.target? u.name = some trail ∧ ∃ content, d'.tree.fileAt? trail = some content ∧
    (writing disk d done).store.Cuts disk u.name u.source e content

/-- A directory after units were written into it and the next could not be. -/
structure LeavesPrefix (disk : Directory → Disk) (d d' : Directory) (done : List Action.Unit)
    (u : Action.Unit) (e : Failure) : Prop where
  /-- The failure is about the location of the unit that could not be written. -/
  failure : ∃ c, e = Output.writeFailure (d.location u.name) c
  /-- No unit is tried after that one. -/
  attempted : d' = (attempt disk d done u).store
  /-- The locations of the units before it are listed in order. -/
  written : d'.written = d.written ++ done.map fun v => (d.location v.name).text
  /-- Each of the units before it has its file, with the source of the last unit written there, if
  it is not the file that was opened in vain. -/
  onDisk : ∀ v ∈ done, ∃ trail last, d'.target? v.name = some trail ∧
    lastAt d' done trail = some last ∧
      (d'.tree.fileAt? trail = some (Text.utf8 last.source) ∨ Breaks disk d d' done u e trail)
  /-- All other files are as they were, but for that one. -/
  others : ∀ trail, (∀ v ∈ done, d'.target? v.name ≠ some trail) →
    d'.tree.fileAt? trail = d.tree.fileAt? trail ∨ Breaks disk d d' done u e trail
  /-- The directories that were there still are. -/
  keeps : d.tree.KeepsDirectories d'.tree

/-- The last of the contents at the end of a trail is the source of the last unit there. -/
theorem getLast?_wholes (d : Directory) (done : List Action.Unit) (trail : Trail) :
    ((Output.wholes (done.map fun u => (u.name, u.source))).filter
        fun c => d.target? c.1 = some trail).getLast?.map Prod.snd
      = (lastAt d done trail).map fun v => Text.utf8 v.source := by
  simp only [lastAt, Output.wholes, List.filter_map, List.getLast?_map, Option.map_map,
    Function.comp_def]

/-- Units are put into a directory, and of a further one at most the beginning. -/
def PutsUpTo (disk : Directory → Disk) (d d' : Directory) (done : List Action.Unit)
    (u : Action.Unit) (e : Failure) : Prop :=
  d.Filled d' (Output.wholes (done.map fun u => (u.name, u.source))) ∨ ∃ content,
    (writing disk d done).store.Cuts disk u.name u.source e content ∧
      d.Filled d' (Output.wholes (done.map fun u => (u.name, u.source)) ++ [(u.name, content)])

/-- What is read then is the source of the last unit that was written there, or what was there
before, unless the file was opened in vain. -/
theorem PutsUpTo.fileAt? (h : PutsUpTo disk d d' done u e) (trail : Trail) :
    d'.tree.fileAt? trail = ((lastAt d' done trail).map fun v => Text.utf8 v.source).or
        (d.tree.fileAt? trail) ∨ Breaks disk d d' done u e trail := by
  rcases h with hfilled | ⟨content, hcuts, hfilled⟩
  · rw [hfilled.files, getLast?_wholes]
    exact Or.inl rfl
  · by_cases htarget : d'.target? u.name = some trail
    · refine Or.inr ⟨htarget, content, ?_, hcuts⟩
      rw [hfilled.files, List.filter_append, List.filter_cons_of_pos (by simpa using htarget),
        List.filter_nil, List.getLast?_concat, Option.map_some, Option.some_or]
    · rw [hfilled.files, List.filter_append, List.filter_cons_of_neg (by simpa using htarget),
        List.filter_nil, List.append_nil, getLast?_wholes]
      exact Or.inl rfl

/-- The units that are put have their files. -/
theorem PutsUpTo.exists_last (h : PutsUpTo disk d d' done u e) {v : Action.Unit} (hv : v ∈ done) :
    ∃ trail last, d'.target? v.name = some trail ∧ lastAt d' done trail = some last := by
  have hmem : (v.name, Text.utf8 v.source) ∈
      Output.wholes (done.map fun u => (u.name, u.source)) :=
    List.mem_map.mpr ⟨(v.name, v.source), List.mem_map_of_mem hv, rfl⟩
  obtain ⟨trail, htarget⟩ : ∃ trail, d'.target? v.name = some trail := by
    rcases h with hfilled | ⟨content, -, hfilled⟩
    · exact hfilled.targets (v.name, Text.utf8 v.source) hmem
    · exact hfilled.targets (v.name, Text.utf8 v.source) (List.mem_append_left _ hmem)
  have hne : (done.filter fun u => d'.target? u.name = some trail) ≠ [] :=
    List.ne_nil_of_mem (List.mem_filter.mpr ⟨hv, decide_eq_true htarget⟩)
  exact ⟨trail, _, htarget, List.getLast?_eq_some_getLast hne⟩

theorem PutsUpTo.keeps (h : PutsUpTo disk d d' done u e) : d.tree.KeepsDirectories d'.tree := by
  rcases h with hfilled | ⟨_, -, hfilled⟩ <;> exact hfilled.keeps

/-- What is left when a unit is refused: why it is, what was listed, and what was put. -/
theorem FailsAt.spec (h : FailsAt disk d done u e) :
    (∃ c, e = Output.writeFailure (d.location u.name) c) ∧
      (attempt disk d done u).store.written
        = d.written ++ done.map (fun v => (d.location v.name).text) ∧
      PutsUpTo disk d (attempt disk d done u).store done u e := by
  obtain ⟨locations, hdone⟩ := h.before
  obtain ⟨hbefore, hlisted⟩ := Output.wrote_of_ok hdone
  have hspec := Output.inDirectoryOn_spec disk (writing disk d done).store u.name u.source
  rw [← attempt, h.next] at hspec
  generalize (attempt disk d done u).store = d' at hspec ⊢
  obtain ⟨⟨c, hc⟩, hwritten, hfilled⟩ := hspec
  rw [← writing] at hbefore hlisted
  rw [List.append_nil] at hbefore
  rw [hbefore.same.location] at hc
  refine ⟨⟨c, hc⟩, ?_, ?_⟩
  · rw [hwritten, hlisted, List.map_map, Function.comp_def]
  · rcases hfilled with hfilled | ⟨content, hcuts, hfilled⟩
    · have hall := hbefore.append hfilled
      rw [List.append_nil] at hall
      exact Or.inl hall
    · exact Or.inr ⟨content, hcuts, hbefore.append hfilled⟩

/-- **What was written before a unit is there when that unit is refused**, but for what was in the
file of that unit. -/
theorem FailsAt.leavesPrefix (h : FailsAt disk d done u e) :
    LeavesPrefix disk d (attempt disk d done u).store done u e := by
  obtain ⟨hfailure, hwritten, hputs⟩ := h.spec
  refine ⟨hfailure, rfl, hwritten, fun v hv => ?_, fun trail hnone => ?_, hputs.keeps⟩
  · obtain ⟨trail, last, htarget, hlast⟩ := hputs.exists_last hv
    refine ⟨trail, last, htarget, hlast, (hputs.fileAt? trail).imp_left fun hfile => ?_⟩
    rw [hfile, hlast, Option.map_some, Option.some_or]
  · refine (hputs.fileAt? trail).imp_left fun hfile => ?_
    have hempty : (done.filter fun v =>
        (attempt disk d done u).store.target? v.name = some trail) = [] :=
      List.filter_eq_nil_iff.mpr fun v hv heq => hnone v hv (of_decide_eq_true heq)
    rw [hfile, lastAt, hempty, List.getLast?_nil, Option.map_none, Option.none_or]

/-- With a unit that cannot be written the writing ends. -/
theorem FailsAt.writing (h : FailsAt disk d done u e) (rest : List Action.Unit) :
    (writing disk d (done ++ u :: rest)).outcome = .error e ∧
      (writing disk d (done ++ u :: rest)).store = (attempt disk d done u).store := by
  obtain ⟨locations, hdone⟩ := h.before
  rw [Generation.writing, List.map_append, List.map_cons]
  exact Output.emitAll_of_failure hdone h.next

/-- Where not all units can be written, there is a first that cannot. -/
theorem exists_failsAt {us : List Action.Unit} (h : (writing disk d us).outcome = .error e) :
    ∃ done u rest, us = done ++ u :: rest ∧ FailsAt disk d done u e := by
  obtain ⟨ps, p, others, locations, heq, hdone, hfails⟩ := Output.exists_failure_of_emitAll h
  obtain ⟨done, tail, rfl, rfl, htail⟩ := List.map_eq_append_iff.mp heq
  obtain ⟨u, rest, rfl, rfl, -⟩ := List.map_eq_cons_iff.mp htail
  exact ⟨done, u, rest, rfl, ⟨locations, hdone⟩, hfails⟩

/-- Units that can be encoded are written as their octets are put. -/
theorem writing_of_encodes (h : ∀ v ∈ done, Text.EncodingFault.inUtf8? v.source.toList = none) :
    writing disk d done
      = emitAll (octetsInDirectory disk) d (done.map fun u => (u.name, u.source)) :=
  Output.emitAll_of_encodes d (List.forall_mem_map.mpr h)

/-- A unit after them is put where they left off. -/
theorem attempt_of_encodes (h : ∀ v ∈ done, Text.EncodingFault.inUtf8? v.source.toList = none) :
    let d' := (emitAll (octetsInDirectory disk) d (done.map fun u => (u.name, u.source))).store
    attempt disk d done u
      = d'.put (disk d') (d'.location u.name) ((disk d').keep (d'.location u.name) u.source) := by
  rw [attempt, writing_of_encodes h, inDirectoryOn]

/-- A unit of which the disk keeps something else is refused, once its file is open, and what is
kept takes the place of what was there. -/
theorem failsAt_of_keep (disk : Directory → Disk) (d' : Directory) (u : Action.Unit)
    {content : ByteArray} {c : Cause}
    (h : ∀ v ∈ done, Text.EncodingFault.inUtf8? v.source.toList = none)
    (hdone : (emitAll (octetsInDirectory disk) d
      (done.map fun u => (u.name, u.source))).outcome.toOption.isSome = true)
    (hd' : (emitAll (octetsInDirectory disk) d (done.map fun u => (u.name, u.source))).store = d')
    (hopened : (d'.put (disk d') (d'.location u.name) (content, .ok ())).outcome.toOption.isSome
      = true)
    (hkeep : (disk d').keep (d'.location u.name) u.source = (content, .error c)) :
    FailsAt disk d done u (Output.writeFailure (d'.location u.name) c) ∧
      (attempt disk d done u).store.tree
        = (d'.put (disk d') (d'.location u.name) (content, .ok ())).store.tree := by
  obtain ⟨locations, hlocations⟩ := Option.isSome_iff_exists.mp hdone
  have hattempt : attempt disk d done u
      = d'.put (disk d') (d'.location u.name) (content, .error c) := by
    rw [attempt, writing_of_encodes h, hd', inDirectoryOn, hkeep]
  obtain ⟨houtcome, htree⟩ := d'.put_error (disk d') (d'.location u.name) content c hopened
  rw [← hattempt] at houtcome htree
  refine ⟨⟨⟨locations, ?_⟩, houtcome⟩, htree⟩
  rw [writing_of_encodes h]
  exact eq_ok_of_toOption hlocations

end

/-! ### Generating -/

/-- With a unit that cannot be written a run ends. -/
theorem FailsAt.generate {g : Generator} {load : Loader} {disk : Directory → Disk} {d : Directory}
    {done : List Action.Unit} (rest : List Action.Unit) {u : Action.Unit} {e : Failure}
    (h : FailsAt disk d done u e)
    (hunits : (g.units load none).result = .ok (done ++ u :: rest)) :
    (g.generate load (inDirectoryOn disk) d).1.result = .error e ∧
      (g.generate load (inDirectoryOn disk) d).2 = (attempt disk d done u).store := by
  obtain ⟨houtcome, hstore⟩ := h.writing rest
  rw [← houtcome, ← hstore]
  exact generate_of_ok hunits

/-- **A run that fails leaves a prefix of its work**, whatever was asked of the generator before and
whatever the disk refuses.  Where the source, an operation or a name stands in the way of the units
nothing is changed.  Where a unit cannot be written, those before it are there, up to the file that
was opened for it, and none after it is tried.  No run fails otherwise. -/
theorem generate_interrupted (s : DocumentSettings) (before : List Request) (load : Loader)
    (disk : Directory → Disk) (d : Directory) :
    let g := afterwards s before
    let out := g.generate load (inDirectoryOn disk) d
    (∀ e, g.Falters load e → out.1.result = .error e ∧ out.2 = d) ∧
      (∀ us done u rest e, (g.units load none).result = .ok us → us = done ++ u :: rest →
        FailsAt disk d done u e →
          out.1.result = .error e ∧ LeavesPrefix disk d out.2 done u e) ∧
      ∀ e, out.1.result = .error e → g.Falters load e ∨
        ∃ us done u rest, (g.units load none).result = .ok us ∧ us = done ++ u :: rest ∧
          FailsAt disk d done u e := by
  intro g out
  have hstep : InStep s (latest s.source before) g := inStep_afterwards s before
  refine ⟨fun e he => ?_, fun us done u rest e hus heq hfails => ?_, fun e he => ?_⟩
  · have hunits := he.units
    refine ⟨?_, generate_of_error hunits⟩
    simp only [out, Generator.generate, hunits]
  · obtain ⟨hresult, hstore⟩ := hfails.generate rest (heq ▸ hus)
    exact ⟨hresult, hstore ▸ hfails.leavesPrefix⟩
  · cases hunits : (g.units load none).result with
    | error e' =>
      have hsame : out.1.result = .error e' := by simp only [out, Generator.generate, hunits]
      obtain rfl := Except.error.inj (hsame.symm.trans he)
      exact Or.inl ((units_eq_error_iff hstep).mp hunits)
    | ok us =>
      obtain ⟨hresult, -⟩ : out.1.result = (writing disk d us).outcome ∧
        out.2 = (writing disk d us).store := generate_of_ok hunits
      obtain ⟨done, u, rest, heq, hfails⟩ := exists_failsAt (hresult.symm.trans he)
      exact Or.inr ⟨us, done, u, rest, rfl, heq, hfails⟩

/-- Of three units the first two have one file, which keeps the second, and the third leads into a
directory that is missing.  Of two operations with one name none is written. -/
theorem generate_interrupted_missing :
    let ids := [("/a", "list"), ("/b", "./list"), ("/c", "missing/list")]
    let done := namedUnits [("/a", "list"), ("/b", "./list")]
    let twice := [("/a", "list"), ("/b", "list")]
    let repeated := Failure.collision "list" ["GET /a", "GET /b"]
    (∃ e, (writtenFor ids).1.result = .error e ∧
      LeavesPrefix (fun _ => Disk.sound) freshDirectory (writtenFor ids).2 done
        (interleavedUnit "/c" "get" "missing/list") e) ∧
      (writtenFor twice).1.result = .error repeated ∧ (writtenFor twice).2 = freshDirectory := by
  intro ids done twice repeated
  obtain ⟨-, hwriting, -⟩ := generate_interrupted strictGenerator.settings []
    (fun _ => .ok (documentNamed ids)) (fun _ => Disk.sound) freshDirectory
  obtain ⟨hcollision, -, -⟩ := generate_interrupted strictGenerator.settings []
    (fun _ => .ok (documentNamed twice)) (fun _ => Disk.sound) freshDirectory
  refine ⟨?_, hcollision repeated ?_⟩
  · have hplain : ∀ v ∈ done, ∀ t ∈ v.texts, Text.IsPlain t.toList := by decide +kernel
    have hencodes := fun v hv => Action.encodes_source (hplain v hv)
    have hdone : (writing (fun _ => Disk.sound) freshDirectory done).outcome
        = .ok ["out/list.ts", "out/list.ts"] := by
      rw [writing_of_encodes hencodes]
      exact eq_ok_of_toOption (by decide +kernel)
    have hnext : (attempt (fun _ => Disk.sound) freshDirectory done
        (interleavedUnit "/c" "get" "missing/list")).outcome.toOption = none := by
      rw [attempt_of_encodes hencodes]
      decide +kernel
    cases hattempt : (attempt (fun _ => Disk.sound) freshDirectory done
        (interleavedUnit "/c" "get" "missing/list")).outcome with
    | ok location =>
      rw [hattempt] at hnext
      cases hnext
    | error e =>
      exact ⟨e, hwriting (namedUnits ids) done _ [] e rfl rfl ⟨⟨_, hdone⟩, hattempt⟩⟩
  · have hus : List.Forall₂ (Compiles (documentNamed twice) strictGenerator.settings)
        (chosen (documentNamed twice) strictGenerator.settings) (namedUnits twice) :=
      .cons rfl (.cons rfl .nil)
    exact .collision (.loaded rfl rfl) hus rfl rfl

/-! ### A source that is lost -/

/-- A text that is one high surrogate. -/
def loneSurrogate : String := String.ofList (Text.spelling [0xD83D])

/-- A description with two operations of one name, the second of which has a summary that cannot be
encoded. -/
def tornOperations : Fields :=
  [(.str "paths", .map
    [(.str "/a", .map [(.str "get", .map [(.str "operationId", .str "list")])]),
     (.str "/b", .map [(.str "get", .map
       [(.str "operationId", .str "list"), (.str "summary", .str loneSurrogate)])])])]

/-- The description as it is read. -/
def tornDocument : Document where
  contents := ⟨none, none, none,
    [("/a", ⟨none, none, none, [("get", named "list")], []⟩),
     ("/b",
       ⟨none, none, none, [("get", { named "list" with summary := some loneSurrogate })], []⟩)],
    none, []⟩
  raw := tornOperations

/-- A generator for the description. -/
def tornGenerator : Generator :=
  .new (DocumentSettings.ofSource "api.json" "out")

/-- A disk that is full as soon as something was written. -/
def fullDisk (d : Directory) : Disk :=
  if d.written = [] then .sound
  else { Disk.sound with filling := fun _ _ => some (0, "[Errno 28] No space left on device") }

/-- The unit of the first operation. -/
def firstUnit : Action.Unit :=
  interleavedUnit "/a" "get" "list"

/-- The unit of a second operation with its name. -/
def secondUnit : Action.Unit :=
  interleavedUnit "/b" "get" "list"

/-- The unit of that operation when it has the summary. -/
def tornUnit : Action.Unit :=
  { secondUnit with docs := [loneSurrogate] }

theorem encodes_firstUnit : ∀ v ∈ [firstUnit], Text.EncodingFault.inUtf8? v.source.toList = none :=
  List.forall_mem_singleton.mpr (Action.encodes_source (by decide +kernel))

/-- The directory when the first unit is written, as long as the disk is sound. -/
def afterFirst (disk : Directory → Disk) : Directory :=
  (emitAll (octetsInDirectory disk) freshDirectory
    ([firstUnit].map fun u => (u.name, u.source))).store

/-- On a disk that is full then, no octet of the second unit is kept. -/
theorem keep_secondUnit (p : Files.Path) :
    (fullDisk (afterFirst fullDisk)).keep p secondUnit.source
      = (.empty, .error (.other "[Errno 28] No space left on device")) := by
  have hfull : fullDisk (afterFirst fullDisk) = { Disk.sound with
      filling := fun _ _ => some (0, "[Errno 28] No space left on device") } :=
    if_neg (by decide +kernel)
  have hencodes : Text.EncodingFault.inUtf8? secondUnit.source.toList = none :=
    Action.encodes_source (by decide +kernel)
  rw [hfull, Disk.keep_of_encodes _ _ hencodes, Disk.fill]
  dsimp only
  rw [ByteArray.extract_same]

/-- A unit with a surrogate in its comment cannot be encoded. -/
theorem keep_tornUnit (p : Files.Path) : Disk.sound.keep p tornUnit.source
    = (.empty, .error (.noText (.header
      ⟨"utf-8", 0xD83D, 22, 22, "surrogates not allowed"⟩))) := by
  have hfault : Text.EncodingFault.inUtf8? tornUnit.source.toList
      = some ⟨"utf-8", 0xD83D, 22, 22, "surrogates not allowed"⟩ := by
    rw [Action.Unit.source, String.toList_intercalate]
    decide +kernel
  rw [Disk.keep, hfault]

/-- What was written first is lost with the second operation of its name, when that cannot be kept:
where the disk is full, which is a failure of the output, and where there are no octets for it,
which is none. -/
theorem source_lost :
    let twice := [("/a", "list"), ("/b", "list")]
    let full := tornGenerator.generate (fun _ => .ok (documentNamed twice))
      (inDirectoryOn fullDisk) freshDirectory
    let torn := tornGenerator.generate (fun _ => .ok tornDocument) inDirectory freshDirectory
    Loading.check "api.json" (.map (operationsNamed twice)) = .ok (documentNamed twice) ∧
      Loading.check "api.json" (.map tornOperations) = .ok tornDocument ∧
      full.1.result = .error (.output "out/list.ts"
        (some (.other "[Errno 28] No space left on device"))) ∧
      full.2.written = ["out/list.ts"] ∧
      full.2.tree.fileAt? ["out", "list.ts"] = some .empty ∧
      torn.1.result = .error (.bare (.noText (.header
        ⟨"utf-8", 0xD83D, 22, 22, "surrogates not allowed"⟩))) ∧
      torn.2.tree.fileAt? ["out", "list.ts"] = some .empty ∧
      Text.utf8 firstUnit.source ≠ .empty := by
  intro twice full torn
  -- In both runs the first unit is written, and the file is opened again for the second.
  obtain ⟨hfull, hlost⟩ := failsAt_of_keep fullDisk (afterFirst fullDisk) secondUnit
    encodes_firstUnit (by decide +kernel) rfl (by decide +kernel) (keep_secondUnit _)
  obtain ⟨htorn, hempty⟩ := failsAt_of_keep (fun _ => Disk.sound)
    (afterFirst fun _ => Disk.sound) tornUnit encodes_firstUnit (by decide +kernel) rfl
    (by decide +kernel) (keep_tornUnit _)
  obtain ⟨hresult, hstore⟩ : full.1.result = _ ∧ full.2 = _ := hfull.generate [] rfl
  obtain ⟨hresult', hstore'⟩ : torn.1.result = _ ∧ torn.2 = _ := htorn.generate [] rfl
  have hlocation : ((afterFirst fullDisk).location secondUnit.name).text = "out/list.ts" := by
    decide +kernel
  refine ⟨rfl, rfl, hresult.trans ?_, ?_, ?_, hresult', ?_, ?_⟩
  · rw [Output.writeFailure, hlocation]
  · rw [hstore, hfull.spec.2.1]
    decide +kernel
  · rw [hstore, hlost]
    decide +kernel
  · rw [hstore', hempty]
    decide +kernel
  · refine Text.utf8_ne_empty ?_
    rw [Action.Unit.source, String.toList_intercalate]
    decide +kernel

end ServerActions.Generation
