import ServerActions.Generation.Generator
import ServerActions.Proofs.Generation.Collisions
import ServerActions.Proofs.Generation.Compilation
import ServerActions.Proofs.Output.Modules

/-!
# Generating into memory

What is in memory after a description was generated into it, and which names were remarked on.

## Main definitions

* `Generator.Opens` — the description with which a generator works.
* `lastNamed` — the last of several units with a name.
* `KeepsLast`, `RefusesRepeated` — what comes of generating where names that several operations have
  are remarked on, and where they are a failure.

## Main results

* `generate_inMemory` — **every name that several operations have is reported, and the last
  operation with it is kept.**
-/

namespace ServerActions.Generation

open Description (Document)
open Reference (Run Session)
open Output (Modules inMemory)

/-! ### Reports -/

/-- Several remarks are made one after the other. -/
theorem forM_note {α : Type} (remark : α → Notice) (as : List α) (s : Session) :
    (as.forM fun a => Run.note (remark a)) s
      = (.ok (), { s with notices := s.notices ++ as.map remark }) := by
  induction as generalizing s with
  | nil => rw [List.map_nil, List.append_nil]; rfl
  | cons a as ih =>
    have hcons : ((a :: as).forM fun a => Run.note (remark a))
        = Run.note (remark a) >>= fun _ => as.forM fun a => Run.note (remark a) := rfl
    rw [hcons, Run.bind_apply]
    refine (ih { s with notices := s.notices ++ [remark a] }).trans ?_
    rw [List.append_assoc, List.map_cons, List.singleton_append]

/-- The remarks on the names that several units have, each with the operations of these. -/
def reports (us : List Action.Unit) : List Notice :=
  (repeatedNames us).map fun name => ⟨.warning, .operations,
    "Identifier '" ++ name ++ "' is derived by " ++ ", ".intercalate (labelsOf us name)
      ++ "; only the last one is kept"⟩

/-- Repeated names are remarked on, unless they are a failure. -/
theorem checkCollisions_of_not_fail {s : DocumentSettings} (h : s.failOnCollision = false)
    (us : List Action.Unit) (session : Session) :
    checkCollisions s us session
      = (.ok (), { session with notices := session.notices ++ reports us }) := by
  rw [checkCollisions, collisions_eq, reports]
  cases repeatedNames us with
  | nil => rw [List.map_nil, List.map_nil, List.append_nil]; rfl
  | cons n ns =>
    simp only [List.map_cons, h, Bool.false_eq_true, if_false]
    rw [forM_note fun g : String × List String => collisionNotice g.1 g.2, List.map_cons,
      List.map_map]
    rfl

/-- Where repeated names are a failure, the first of them is named. -/
theorem checkCollisions_of_fail {s : DocumentSettings} (h : s.failOnCollision = true)
    (us : List Action.Unit) (session : Session) :
    checkCollisions s us session = match repeatedNames us with
      | [] => (.ok (), session)
      | n :: _ => (.error (.collision n (labelsOf us n)), session) := by
  rw [checkCollisions, collisions_eq]
  cases repeatedNames us with
  | nil => rfl
  | cons n ns =>
    simp only [List.map_cons, h, if_true]
    rfl

/-! ### The units of a description -/

section

variable {g : Generator} {load : Loader} {doc : Document} {s : DocumentSettings}
  {us : List Action.Unit}

/-- The description with which a generator works: the one in use, when the generator remembers of it
what it has, or the one that is loaded. -/
inductive Generator.Opens (g : Generator) (load : Loader) (doc : Document) : Prop
  | inUse (hdoc : g.document = some doc) (hmemo : Reference.Faithful doc.raw ⟨g.memo, []⟩)
  | loaded (hdoc : g.document = none) (hload : load g.settings.source = .ok doc)

/-- What a generator does with its description, it does in a quiet session. -/
theorem Generator.Opens.withDocument {α : Type} (h : g.Opens load doc) (r : Document → Run α) :
    ∃ session, Quiet doc.raw session ∧ g.withDocument load r
      = ⟨(r doc session).1, { g with document := some doc, memo := (r doc session).2.memo },
          (r doc session).2.notices⟩ := by
  cases h with
  | inUse hdoc hmemo =>
    refine ⟨⟨g.memo, []⟩, ⟨hmemo, fun _ h => nomatch h⟩, ?_⟩
    rw [Generator.withDocument, hdoc]
    rfl
  | loaded hdoc hload =>
    refine ⟨.fresh, quiet_fresh _, ?_⟩
    rw [Generator.withDocument, hdoc, hload]
    rfl

/-- The names of the units of a description are checked after all of them were compiled. -/
theorem Generator.Opens.units (h : g.Opens load doc)
    (hus : List.Forall₂ (Compiles doc g.settings) (chosen doc g.settings) us) :
    ∃ session, Quiet doc.raw session ∧
      g.units load none = match checkCollisions g.settings us session with
        | (.ok _, last) =>
          ⟨.ok us, { g with document := some doc, memo := last.memo }, last.notices⟩
        | (.error e, last) =>
          ⟨.error e, { g with document := some doc, memo := last.memo }, last.notices⟩ := by
  obtain ⟨session, hquiet, hrun⟩ := h.withDocument fun doc => Generation.units doc g.settings
  obtain ⟨hok, hlater⟩ := keeps_compileAll hus session hquiet
  refine ⟨(compileAll doc g.settings (chosen doc g.settings) session).2, hlater, ?_⟩
  refine hrun.trans ?_
  rw [Generation.units, Run.bind_apply]
  rcases hcompiled : compileAll doc g.settings (chosen doc g.settings) session with ⟨_ | us', later⟩
  · rw [hcompiled] at hok
    cases hok
  · rw [hcompiled] at hok
    cases hok
    simp only [Run.bind_apply]
    rcases checkCollisions g.settings us later with ⟨_ | _, last⟩ <;> rfl

end

/-! ### Generating -/

section

variable {g g' : Generator} {load : Loader} {doc : Document} {us : List Action.Unit} {m : Modules}
  {notices : List Notice}

/-- The file name of a unit. -/
def fileOf (s : DocumentSettings) (u : Action.Unit) : String :=
  u.name ++ s.fileExtension

/-- The modules with those of units put after them. -/
def stored (s : DocumentSettings) (us : List Action.Unit) (m : Modules) : Modules :=
  { m with entries := Output.putAll m.entries (us.map fun u => (fileOf s u, u.source)) }

/-- The remark on a description without operations, where there are none. -/
def emptyNotices (s : DocumentSettings) (us : List Action.Unit) : List Notice :=
  if us.isEmpty then [⟨.warning, .operations, s.source ++ " declares no operations"⟩] else []

/-- Where a description has units, their modules are put into memory. -/
theorem generate_of_units (hunits : g.units load none = ⟨.ok us, g', notices⟩)
    (hext : m.extension = g.settings.fileExtension) :
    g.generate load inMemory m
      = (⟨.ok (us.map (fileOf g.settings)), g', notices ++ emptyNotices g.settings us⟩,
        stored g.settings us m) := by
  have hfile : ∀ u : Action.Unit, m.fileName u.name = fileOf g.settings u := fun u => by
    rw [Modules.fileName, hext, fileOf]
  simp only [Generator.generate, hunits, Output.emitAll_inMemory, List.map_map,
    Function.comp_def, hfile, List.append_nil]
  rfl

/-- Where a description has no units, nothing is put. -/
theorem generate_of_units_error {e : Failure} (hunits : g.units load none = ⟨.error e, g', notices⟩)
    (m : Modules) : g.generate load inMemory m = (⟨.error e, g', notices⟩, m) := by
  simp only [Generator.generate, hunits]

/-- Generating where repeated names are remarked on. -/
theorem generate_of_not_fail (hopens : g.Opens load doc)
    (hfail : g.settings.failOnCollision = false)
    (hus : List.Forall₂ (Compiles doc g.settings) (chosen doc g.settings) us)
    (hext : m.extension = g.settings.fileExtension) :
    ∃ session, Quiet doc.raw session ∧ g.generate load inMemory m
      = (⟨.ok (us.map (fileOf g.settings)),
          { g with document := some doc, memo := session.memo },
          session.notices ++ reports us ++ emptyNotices g.settings us⟩,
        stored g.settings us m) := by
  obtain ⟨session, hquiet, hunits⟩ := hopens.units hus
  rw [checkCollisions_of_not_fail hfail] at hunits
  exact ⟨session, hquiet, generate_of_units hunits hext⟩

/-- Generating where repeated names are a failure. -/
theorem generate_of_fail (hopens : g.Opens load doc) (hfail : g.settings.failOnCollision = true)
    (hus : List.Forall₂ (Compiles doc g.settings) (chosen doc g.settings) us)
    (hext : m.extension = g.settings.fileExtension) :
    match repeatedNames us with
    | [] => (g.generate load inMemory m).1.result = .ok (us.map (fileOf g.settings)) ∧
        (g.generate load inMemory m).2 = stored g.settings us m
    | name :: _ =>
        (g.generate load inMemory m).1.result = .error (.collision name (labelsOf us name)) ∧
        (g.generate load inMemory m).2 = m := by
  obtain ⟨session, -, hunits⟩ := hopens.units hus
  rw [checkCollisions_of_fail hfail] at hunits
  cases hnames : repeatedNames us with
  | nil =>
    rw [hnames] at hunits
    rw [generate_of_units hunits hext]
    exact ⟨rfl, rfl⟩
  | cons name names =>
    rw [hnames] at hunits
    rw [generate_of_units_error hunits m]
    exact ⟨rfl, rfl⟩

/-! ### What is kept -/

/-- The last of several units with a name. -/
def lastNamed (us : List Action.Unit) (name : String) : Option Action.Unit :=
  (us.filter (·.name = name)).getLast?

/-- File names differ as the names of their units do. -/
theorem fileOf_inj {s : DocumentSettings} {u v : Action.Unit} :
    fileOf s u = fileOf s v ↔ u.name = v.name := by
  constructor
  · intro h
    have h := congrArg String.toList h
    rw [fileOf, fileOf, String.toList_append, String.toList_append] at h
    exact String.toList_inj.mp (List.append_cancel_right h)
  · intro h
    rw [fileOf, fileOf, h]

/-- Under a file name stands the last module that was put there, or what stood there before. -/
theorem get?_stored (s : DocumentSettings) (us : List Action.Unit) (m : Modules) (file : String) :
    (stored s us m).get? file
      = ((us.filter (fileOf s · = file)).getLast?.map Action.Unit.source).or (m.get? file) := by
  rw [Modules.get?, stored, Output.lookup_putAll, List.filter_map, List.getLast?_map,
    Option.map_map]
  rfl

/-- Under the file name of a name stands the last unit with it. -/
theorem get?_stored_of_lastNamed {s : DocumentSettings} {name : String} {u : Action.Unit}
    (h : lastNamed us name = some u) (m : Modules) :
    (stored s us m).get? (fileOf s u) = some u.source := by
  have hname : u.name = name := of_decide_eq_true (List.mem_filter.mp (List.mem_of_getLast? h)).2
  have hfilter : us.filter (fileOf s · = fileOf s u) = us.filter (·.name = name) :=
    List.filter_congr fun v _ => by simp only [fileOf_inj, hname]
  rw [get?_stored, hfilter]
  exact congrArg (fun last => (Option.map Action.Unit.source last).or _) h

/-- Under the other file names stands what stood there before. -/
theorem get?_stored_of_not_mem {s : DocumentSettings} {file : String}
    (h : file ∉ us.map (fileOf s)) (m : Modules) : (stored s us m).get? file = m.get? file := by
  have hnone : us.filter (fileOf s · = file) = [] := List.filter_eq_nil_iff.mpr fun u hu hfile =>
    h (List.mem_map.mpr ⟨u, hu, of_decide_eq_true hfile⟩)
  rw [get?_stored, hnone, List.getLast?_nil, Option.map_none, Option.none_or]

/-- Where names are distinct, each unit is the last one with its name. -/
theorem lastNamed_of_nodup (hnodup : (us.map Action.Unit.name).Nodup) {u : Action.Unit}
    (h : u ∈ us) : lastNamed us u.name = some u := by
  have hne : us.filter (·.name = u.name) ≠ [] :=
    List.ne_nil_of_mem (List.mem_filter.mpr ⟨h, decide_eq_true rfl⟩)
  obtain ⟨hmem, hname⟩ := List.mem_filter.mp (List.getLast_mem hne)
  rw [lastNamed, List.getLast?_eq_some_getLast hne,
    List.inj_on_of_nodup_map hnodup hmem h (of_decide_eq_true hname)]

end

/-! ### What comes of generating -/

/-- What comes of generating units into memory where repeated names are remarked on. -/
structure KeepsLast (s : DocumentSettings) (us : List Action.Unit) (m : Modules)
    (out : Outcome (List String) × Modules) : Prop where
  /-- The result is the file names, in the order of the operations. -/
  files : out.1.result = .ok (us.map (fileOf s))
  /-- Of several units with one name the last one is kept. -/
  last : ∀ name u, lastNamed us name = some u → out.2.get? (fileOf s u) = some u.source
  /-- The other modules stay as they are. -/
  others : ∀ file, file ∉ us.map (fileOf s) → out.2.get? file = m.get? file
  /-- The warnings are one for each repeated name, with the method and the path of each operation
  that has it, and one for a description without operations. -/
  warnings : out.1.notices.filter (·.level = .warning)
    = ((repeatedNames us).map fun name => ⟨.warning, .operations,
        "Identifier '" ++ name ++ "' is derived by "
          ++ ", ".intercalate ((us.filter (·.name = name)).map fun u =>
            String.ofList (Text.upper u.method.toList) ++ " " ++ u.path)
          ++ "; only the last one is kept"⟩)
      ++ if us.isEmpty then [⟨.warning, .operations, s.source ++ " declares no operations"⟩] else []

/-- What comes of generating units into memory where repeated names are a failure. -/
structure RefusesRepeated (s : DocumentSettings) (us : List Action.Unit) (m : Modules)
    (out : Outcome (List String) × Modules) : Prop where
  /-- Generating fails if and only if the names are not distinct. -/
  fails_iff : (∃ e, out.1.result = .error e) ↔ ¬ (us.map Action.Unit.name).Nodup
  /-- The failure names the first repeated name and its operations, and nothing is put. -/
  first : ∀ name names, repeatedNames us = name :: names →
    out.1.result = .error (.collision name ((us.filter (·.name = name)).map fun u =>
      String.ofList (Text.upper u.method.toList) ++ " " ++ u.path)) ∧ out.2 = m
  /-- Otherwise the result is the file names, which are distinct. -/
  files : (us.map Action.Unit.name).Nodup →
    out.1.result = .ok (us.map (fileOf s)) ∧ (us.map (fileOf s)).Nodup
  /-- Otherwise each unit is kept. -/
  kept : (us.map Action.Unit.name).Nodup → ∀ u ∈ us, out.2.get? (fileOf s u) = some u.source
  /-- The other modules stay as they are. -/
  others : ∀ file, file ∉ us.map (fileOf s) → out.2.get? file = m.get? file

section

variable {g : Generator} {load : Loader} {doc : Document} {us : List Action.Unit} {m : Modules}

theorem keepsLast_generate (hopens : g.Opens load doc)
    (hfail : g.settings.failOnCollision = false)
    (hus : List.Forall₂ (Compiles doc g.settings) (chosen doc g.settings) us)
    (hext : m.extension = g.settings.fileExtension) :
    KeepsLast g.settings us m (g.generate load inMemory m) := by
  obtain ⟨session, hquiet, hgenerate⟩ := generate_of_not_fail hopens hfail hus hext
  rw [hgenerate]
  refine ⟨rfl, fun name u hu => get?_stored_of_lastNamed hu m,
    fun file hfile => get?_stored_of_not_mem hfile m, ?_⟩
  have hdebug : session.notices.filter (·.level = .warning) = [] :=
    List.filter_eq_nil_iff.mpr fun n hn => by simp [hquiet.debug n hn]
  have hreports : (reports us).filter (·.level = .warning) = reports us := by
    refine List.filter_eq_self.mpr fun n hn => ?_
    obtain ⟨name, -, rfl⟩ := List.mem_map.mp hn
    rfl
  have hempty : (emptyNotices g.settings us).filter (·.level = .warning)
      = emptyNotices g.settings us := by
    rw [emptyNotices]
    split_ifs <;> rfl
  simp only [List.filter_append, hdebug, hreports, hempty, List.nil_append]
  rfl

/-- What was generated changes nothing when it is generated again. -/
theorem generate_generate (hopens : g.Opens load doc)
    (hfail : g.settings.failOnCollision = false)
    (hus : List.Forall₂ (Compiles doc g.settings) (chosen doc g.settings) us)
    (hext : m.extension = g.settings.fileExtension) :
    ((g.generate load inMemory m).1.generator.generate load inMemory
      (g.generate load inMemory m).2).2 = (g.generate load inMemory m).2 := by
  obtain ⟨session, hquiet, hgenerate⟩ := generate_of_not_fail hopens hfail hus hext
  rw [hgenerate]
  -- The second time the description is in use, with what the first run remembered of it.
  have hmemo : Reference.Faithful doc.raw ⟨session.memo, []⟩ :=
    (Reference.find_congr (s := ⟨session.memo, []⟩) (t := session) rfl).trans hquiet.faithful
  have hopens' : Generator.Opens { g with document := some doc, memo := session.memo } load doc :=
    .inUse rfl hmemo
  obtain ⟨_, -, hagain⟩ := generate_of_not_fail (m := stored g.settings us m) hopens' hfail hus hext
  rw [hagain]
  simp only [stored, Output.putAll_putAll]

theorem refusesRepeated_generate (hopens : g.Opens load doc)
    (hfail : g.settings.failOnCollision = true)
    (hus : List.Forall₂ (Compiles doc g.settings) (chosen doc g.settings) us)
    (hext : m.extension = g.settings.fileExtension) :
    RefusesRepeated g.settings us m (g.generate load inMemory m) := by
  have hgenerate := generate_of_fail hopens hfail hus hext
  have hnil := repeatedNames_eq_nil_iff us
  -- Either no name is repeated and all of the files are written, or nothing is written.
  cases hnames : repeatedNames us with
  | nil =>
    rw [hnames] at hgenerate
    obtain ⟨hresult, hstore⟩ := hgenerate
    have hnodup : (us.map Action.Unit.name).Nodup := hnil.mp hnames
    have hfiles : (us.map (fileOf g.settings)).Nodup := by
      refine (List.nodup_map_iff_inj_on (List.Nodup.of_map _ hnodup)).mpr fun u hu v hv huv => ?_
      exact List.inj_on_of_nodup_map hnodup hu hv (fileOf_inj.mp huv)
    refine ⟨⟨fun ⟨e, he⟩ => ?_, fun h => absurd hnodup h⟩, fun _ _ h => ?_,
      fun _ => ⟨hresult, hfiles⟩, fun _ u hu => ?_, fun file hfile => ?_⟩
    · rw [hresult] at he
      cases he
    · rw [hnames] at h
      cases h
    · rw [hstore]
      exact get?_stored_of_lastNamed (lastNamed_of_nodup hnodup hu) m
    · rw [hstore]
      exact get?_stored_of_not_mem hfile m
  | cons name names =>
    rw [hnames] at hgenerate hnil
    obtain ⟨hresult, hstore⟩ := hgenerate
    have hnodup : ¬ (us.map Action.Unit.name).Nodup := fun h => List.cons_ne_nil _ _ (hnil.mpr h)
    refine ⟨⟨fun _ => hnodup, fun _ => ⟨_, hresult⟩⟩, fun _ _ h => ?_, fun h => absurd h hnodup,
      fun h => absurd h hnodup, fun file _ => ?_⟩
    · rw [hnames] at h
      cases h
      exact ⟨hresult, hstore⟩
    · rw [hstore]

/-- **Every name that several operations have is reported, and the last operation with it is
kept.**  Where such names are a failure, nothing is put if there are any, and otherwise every
operation is kept. -/
theorem generate_inMemory (g : Generator) (load : Loader) (doc : Document)
    (hopens : g.Opens load doc) (us : List Action.Unit)
    (hus : List.Forall₂ (Compiles doc g.settings) (chosen doc g.settings) us) (m : Modules)
    (hext : m.extension = g.settings.fileExtension) :
    (g.settings.failOnCollision = false →
      KeepsLast g.settings us m (g.generate load inMemory m) ∧
        ((g.generate load inMemory m).1.generator.generate load inMemory
          (g.generate load inMemory m).2).2 = (g.generate load inMemory m).2) ∧
      (g.settings.failOnCollision = true →
        RefusesRepeated g.settings us m (g.generate load inMemory m)) :=
  ⟨fun hfail => ⟨keepsLast_generate hopens hfail hus hext, generate_generate hopens hfail hus hext⟩,
    fun hfail => refusesRepeated_generate hopens hfail hus hext⟩

end

/-! ### Two operations with one name -/

/-- An operation with an identifier and nothing else. -/
def named (id : String) : Description.Operation :=
  ⟨none, none, none, some id, none, none, [], false, []⟩

/-- A description in which an operation and the next but one have the same name. -/
def interleaved : Document where
  contents := ⟨none, none, none,
    [("/cats", ⟨none, none, none, [("get", named "list"), ("post", named "add")], []⟩),
     ("/dogs", ⟨none, none, none, [("get", named "list")], []⟩)], none, []⟩
  raw := []

/-- A generator for it. -/
def interleavedGenerator (fail : Bool) : Generator :=
  .new { DocumentSettings.ofSource "api.yaml" "out" with failOnCollision := fail }

/-- The unit of one of its operations. -/
def interleavedUnit (path method name : String) : Action.Unit :=
  .build name method path .any (Action.environmentRoot "API_URL") [] none []

/-- The units of the operations. -/
def interleavedUnits : List Action.Unit :=
  [interleavedUnit "/cats" "get" "list", interleavedUnit "/cats" "post" "add",
   interleavedUnit "/dogs" "get" "list"]

/-- Modules that are there before. -/
def earlier : Modules := ⟨".ts", [("old.ts", "old"), ("list.ts", "older")]⟩

theorem compiles_interleaved (fail : Bool) :
    List.Forall₂ (Compiles interleaved (interleavedGenerator fail).settings)
      (chosen interleaved (interleavedGenerator fail).settings) interleavedUnits :=
  .cons rfl (.cons rfl (.cons rfl .nil))

/-- Of the two operations the later one is kept and both are named, or both are refused. -/
theorem generate_inMemory_interleaved :
    let load : Loader := fun _ => .ok interleaved
    let kept := (interleavedGenerator false).generate load inMemory earlier
    let refused := (interleavedGenerator true).generate load inMemory earlier
    earlier.extension = (interleavedGenerator false).settings.fileExtension ∧
      kept.1.result = .ok ["list.ts", "add.ts", "list.ts"] ∧
      kept.2.get? "list.ts" = some (interleavedUnit "/dogs" "get" "list").source ∧
      kept.2.get? "old.ts" = some "old" ∧
      kept.1.notices.filter (·.level = .warning)
        = [⟨.warning, .operations, "Identifier 'list' is derived by GET /cats, GET /dogs; "
            ++ "only the last one is kept"⟩] ∧
      refused.1.result = .error (.collision "list" ["GET /cats", "GET /dogs"]) ∧
      refused.2 = earlier := by
  intro load kept refused
  obtain ⟨hkept, -⟩ := (generate_inMemory (interleavedGenerator false) load interleaved
    (.loaded rfl rfl) interleavedUnits (compiles_interleaved false) earlier rfl).1 rfl
  have hrefused := (generate_inMemory (interleavedGenerator true) load interleaved
    (.loaded rfl rfl) interleavedUnits (compiles_interleaved true) earlier rfl).2 rfl
  obtain ⟨hresult, hstore⟩ := hrefused.first "list" [] (by decide)
  exact ⟨rfl, hkept.files, hkept.last "list" _ rfl, hkept.others "old.ts" (by decide),
    hkept.warnings, hresult, hstore⟩

end ServerActions.Generation
