import ServerActions.Proofs.Generation.Declared
import ServerActions.Proofs.Generation.Encoding
import ServerActions.Proofs.Generation.Names

/-!
# Generating into a directory

Where no operation declares a name with a slash, every file that is written is in the directory
itself, and operations with different names have different files, whatever the disk refuses.  A
slash in a name that is declared makes it a path, which may lead out of the directory or to the file
of another operation.

## Main definitions

* `StaysInside` — the files of units are in a directory itself, and apart for different names.

## Main results

* `not_mem_operationName` — a name has a slash only where one is declared.
* `generate_inDirectory` — **what is written stays inside the directory**, where no name that is
  declared has a slash.
-/

namespace ServerActions.Generation

open Description (Document)
open Files (Disk Trail)
open Output (Directory inDirectory inDirectoryOn)
open Reference (Run)
open TypeScript

/-! ### Slashes in names -/

/-- A name has a slash only where one is declared. -/
theorem not_mem_operationName {method path : String} {declared : Option String}
    (hmethod : method ∈ Description.methods)
    (hdeclared : ∀ id, declared = some id → '/' ∉ id.toList) :
    '/' ∉ (operationName method path declared).toList := by
  have hupper : ∀ c : Char, c.isLower = true → c.toUpper ≠ '/' := by
    intro c hc heq
    have hword := isWordChar_toUpper hc
    rw [heq] at hword
    cases hword
  -- Folding only drops characters and changes case, and neither gives a slash.
  have hfold : ∀ cs : List Char, '/' ∉ cs → '/' ∉ camelFold cs := by
    intro cs hcs hmem
    have hne : ∀ c ∈ cs, c ≠ '/' := fun c hc heq => hcs (heq ▸ hc)
    exact forall_mem_camelFold hupper hne '/' hmem rfl
  by_cases hempty : declared.getD "" = ""
  · rw [toList_operationName_of_empty hempty]
    refine hfold _ fun hmem => ?_
    rcases List.mem_append.mp hmem with hmem | hmem
    · cases (isLower_of_mem_methods hmethod).2 '/' hmem
    · cases isWordChar_of_mem_joinWordsFrom '/' hmem
  · cases declared with
    | none => exact absurd rfl hempty
    | some id =>
      have hne : id ≠ "" := hempty
      rw [operationName_some hne]
      exact hfold _ (hdeclared id rfl)

/-! ### Units with one name -/

section

variable {g : Generator} {load : Loader} {us : List Action.Unit}

/-- What comes of a description came of one in some session. -/
theorem exists_run_of_withDocument {α : Type} {r : Document → Run α} {a : α}
    (h : (g.withDocument load r).result = .ok a) :
    ∃ doc session, (r doc session).1 = .ok a := by
  unfold Generator.withDocument at h
  split at h
  · exact ⟨_, _, h⟩
  · split at h
    · exact ⟨_, _, h⟩
    · cases h

/-- Where repeated names are a failure, the names of units are distinct. -/
theorem nodup_of_units (hfail : g.settings.failOnCollision = true)
    (h : (g.units load none).result = .ok us) : (us.map Action.Unit.name).Nodup := by
  obtain ⟨doc, session, h⟩ := exists_run_of_withDocument h
  obtain ⟨us', later, -, h⟩ := Run.bind_eq_ok h
  obtain ⟨_, last, hcheck, h⟩ := Run.bind_eq_ok h
  obtain rfl := Except.ok.inj h
  rw [checkCollisions_of_fail hfail] at hcheck
  cases hnames : repeatedNames us' with
  | nil => exact (repeatedNames_eq_nil_iff us').mp hnames
  | cons name names =>
    rw [hnames] at hcheck
    cases hcheck

end

/-! ### Files of units -/

section

variable {s : DocumentSettings} {cs : List (Action.Unit × ByteArray)} {c : Action.Unit × ByteArray}
  {d d' : Directory}

/-- The files of units that have some content are in a directory itself, those with different names
have different files, and nothing else is written. -/
structure StaysInside (s : DocumentSettings) (cs : List (Action.Unit × ByteArray))
    (d d' : Directory) : Prop where
  /-- Each unit has its file in the directory, under its file name. -/
  place : ∀ c ∈ cs, ∃ directory, d'.IsAt directory ∧
    d'.target? c.1.name = some (directory ++ [fileOf s c.1])
  /-- Units with one file have one name. -/
  apart : ∀ b ∈ cs, ∀ c ∈ cs, d'.target? b.1.name = d'.target? c.1.name → b.1.name = c.1.name
  /-- The last content under a name is kept. -/
  last : ∀ name c, (cs.filter (·.1.name = name)).getLast? = some c →
    ∀ trail, d'.target? name = some trail → d'.tree.fileAt? trail = some c.2
  /-- The other files stay as they are. -/
  others : ∀ trail, (∀ c ∈ cs, d'.target? c.1.name ≠ some trail) →
    d'.tree.fileAt? trail = d.tree.fileAt? trail

section

variable (h : d.Filled d' (cs.map fun c => (c.1.name, c.2)))

include h

/-- What is read at a trail is the last content put there, or what was there before. -/
theorem fileAt?_of_filled (trail : Trail) : d'.tree.fileAt? trail
    = ((cs.filter fun c => d'.target? c.1.name = some trail).getLast?.map Prod.snd).or
      (d.tree.fileAt? trail) := by
  simp only [h.files, List.filter_map, List.getLast?_map, Option.map_map, Function.comp_def]

/-- Where a content was put, the last one put there is read. -/
theorem exists_last_of_filled (hc : c ∈ cs) {trail : Trail}
    (htarget : d'.target? c.1.name = some trail) :
    ∃ last, (cs.filter fun c => d'.target? c.1.name = some trail).getLast? = some last ∧
      d'.tree.fileAt? trail = some last.2 := by
  have hne : cs.filter (fun c => d'.target? c.1.name = some trail) ≠ [] :=
    List.ne_nil_of_mem (List.mem_filter.mpr ⟨hc, decide_eq_true htarget⟩)
  refine ⟨_, List.getLast?_eq_some_getLast hne, ?_⟩
  rw [fileAt?_of_filled h, List.getLast?_eq_some_getLast hne, Option.map_some, Option.some_or]

/-- Where no content was put, all is as it was. -/
theorem fileAt?_of_filled_of_forall_ne {trail : Trail}
    (hnone : ∀ c ∈ cs, d'.target? c.1.name ≠ some trail) :
    d'.tree.fileAt? trail = d.tree.fileAt? trail := by
  have hempty : cs.filter (fun c => d'.target? c.1.name = some trail) = [] :=
    List.filter_eq_nil_iff.mpr fun c hc heq => hnone c hc (of_decide_eq_true heq)
  rw [fileAt?_of_filled h, hempty, List.getLast?_nil, Option.map_none, Option.none_or]

variable (hext : d.extension = s.fileExtension)

include hext

/-- A unit whose file name has no slash has its file in the directory. -/
theorem exists_place_of_filled (hc : c ∈ cs) (hslash : '/' ∉ (fileOf s c.1).toList) :
    ∃ directory, d'.IsAt directory ∧
      d'.target? c.1.name = some (directory ++ [fileOf s c.1]) := by
  have hfileName : d'.fileName c.1.name = fileOf s c.1 := by
    rw [Directory.fileName, h.same.extension, hext, fileOf]
  obtain ⟨trail, htarget⟩ := h.targets (c.1.name, c.2) (List.mem_map_of_mem hc)
  obtain ⟨directory, hat⟩ := h.there (List.ne_nil_of_mem (List.mem_map_of_mem hc))
  obtain ⟨_, -, hcontent⟩ := exists_last_of_filled h hc htarget
  -- There is a file at the trail, so the trail is not that of the directory itself.
  have hinside := d'.target?_of_not_mem (hfileName ▸ hslash) htarget hcontent hat
  rw [hfileName] at hinside
  exact ⟨directory, hat, hinside ▸ htarget⟩

/-- Units whose file names have no slash have one file only under one name. -/
theorem name_eq_of_filled (hnames : ∀ c ∈ cs, '/' ∉ (fileOf s c.1).toList)
    {b : Action.Unit × ByteArray} (hb : b ∈ cs) (hc : c ∈ cs)
    (heq : d'.target? b.1.name = d'.target? c.1.name) : b.1.name = c.1.name := by
  obtain ⟨directory, hat, htarget⟩ := exists_place_of_filled h hext hb (hnames b hb)
  obtain ⟨directory', hat', htarget'⟩ := exists_place_of_filled h hext hc (hnames c hc)
  obtain rfl := Except.ok.inj (hat.symm.trans hat')
  have htrails := Option.some.inj (htarget.symm.trans (heq.trans htarget'))
  exact fileOf_inj.mp (List.head_eq_of_cons_eq (List.append_cancel_left htrails))

theorem staysInside_of_filled (hnames : ∀ c ∈ cs, '/' ∉ (fileOf s c.1).toList) :
    StaysInside s cs d d' where
  place c hc := exists_place_of_filled h hext hc (hnames c hc)
  apart _ hb _ hc := name_eq_of_filled h hext hnames hb hc
  last name c hc trail htarget := by
    obtain ⟨hmem, hname⟩ := List.mem_filter.mp (List.mem_of_getLast? hc)
    obtain rfl := of_decide_eq_true hname
    -- One trail means one name, so the last content put there is the last one with its name.
    have hfilter : cs.filter (fun b => d'.target? b.1.name = some trail)
        = cs.filter (·.1.name = c.1.name) := by
      refine List.filter_congr fun b hb => decide_eq_decide.mpr ⟨fun heq => ?_, fun hname => ?_⟩
      · exact name_eq_of_filled h hext hnames hb hmem (heq.trans htarget.symm)
      · rw [hname, htarget]
    obtain ⟨last, hlast, hfile⟩ := exists_last_of_filled h hmem htarget
    rw [hfilter] at hlast
    rw [hfile, Option.some.inj (hlast.symm.trans hc)]
  others _ hnone := fileAt?_of_filled_of_forall_ne h hnone

end

end

/-! ### Generating -/

section

variable {g : Generator} {load : Loader}

/-- Nothing is written where a description has no units. -/
theorem generate_of_error {σ : Type} {emit : Output.Emitter σ} {store : σ} {e : Failure}
    (h : (g.units load none).result = .error e) : (g.generate load emit store).2 = store := by
  simp only [Generator.generate, h]

/-- The modules of units are put one after the other. -/
theorem generate_of_ok {σ : Type} {emit : Output.Emitter σ} {store : σ} {us : List Action.Unit}
    (h : (g.units load none).result = .ok us) :
    let emission := Output.emitAll emit store (us.map fun u => (u.name, u.source))
    (g.generate load emit store).1.result = emission.outcome ∧
      (g.generate load emit store).2 = emission.store := by
  simp only [Generator.generate, h, and_self]

/-- What comes of putting the octets of the modules into a directory. -/
def Generator.put (g : Generator) (load : Loader) (d : Directory) :
    Output.Emission Directory (List String) :=
  Output.emitAll (Output.octetsInDirectory fun _ => Disk.sound) d
    (((g.units load none).result.toOption.getD []).map fun u => (u.name, u.source))

/-- Modules of plain units are generated as their octets are put. -/
theorem generate_eq_put {d : Directory} (hunits : (g.units load none).result.toOption.isSome = true)
    (hplain : ∀ u ∈ (g.units load none).result.toOption.getD [], ∀ t ∈ u.texts,
      Text.IsPlain t.toList) :
    (g.generate load inDirectory d).1.result = (g.put load d).outcome ∧
      (g.generate load inDirectory d).2 = (g.put load d).store := by
  obtain ⟨us, hus⟩ := Option.isSome_iff_exists.mp hunits
  rw [hus, Option.getD_some] at hplain
  have hencodes : ∀ p ∈ us.map (fun u => (u.name, u.source)),
      Text.EncodingFault.inUtf8? p.2.toList = none :=
    List.forall_mem_map.mpr fun u hu => Action.encodes_source (hplain u hu)
  rw [Generator.put, hus, Option.getD_some, ← Output.emitAll_of_encodes d hencodes]
  exact generate_of_ok (eq_ok_of_toOption hus)

/-- An operation that is compiled is declared. -/
theorem declares_of_mem_chosen {doc : Document} {s : DocumentSettings} {o : Declared}
    (h : o ∈ chosen doc s) : doc.Declares o.path o.method o.operation := by
  obtain ⟨p, hp, ho⟩ := List.mem_flatMap.mp h
  obtain ⟨q, hq, rfl⟩ := List.mem_map.mp ho
  exact ⟨p.2, (List.mem_filter.mp hp).1, hq⟩

/-- The file names of units have slashes only where names are declared with them. -/
theorem not_mem_fileOf {source : String} {v : Value} {doc : Document} {s : DocumentSettings}
    (hcheck : Loading.check source v = .ok doc)
    (hids : ∀ o ∈ chosen doc s, ∀ id, o.operation.operationId = some id → '/' ∉ id.toList)
    (hslash : '/' ∉ s.fileExtension.toList) {us : List Action.Unit}
    (hus : List.Forall₂ (Compiles doc s) (chosen doc s) us) :
    ∀ u ∈ us, '/' ∉ (fileOf s u).toList := by
  intro u hu
  obtain ⟨o, ho, hcompiles⟩ := Reference.exists_of_forall₂ hus.flip hu
  obtain ⟨_, _, _, _, -, -, rfl⟩ := build_of_compile hcompiles
  obtain ⟨-, hmethod⟩ := (declares_of_mem_chosen ho).of_check hcheck
  rw [fileOf, String.toList_append]
  refine fun hmem => (List.mem_append.mp hmem).elim ?_ hslash
  exact not_mem_operationName hmethod (hids o ho)

/-- Units with all of their octets. -/
def whole (us : List Action.Unit) : List (Action.Unit × ByteArray) :=
  us.map fun u => (u, Text.utf8 u.source)

theorem map_fst_whole (us : List Action.Unit) : (whole us).map Prod.fst = us := by
  rw [whole, List.map_map]
  exact List.map_id us

/-- The units that are written are the first ones, and so are these with one that was begun. -/
theorem map_fst_prefix (done : List Action.Unit) {rest : List Action.Unit}
    {begun : List (Action.Unit × ByteArray)}
    (h : begun = [] ∨ ∃ u others count, rest = u :: others ∧
      begun = [(u, (Text.utf8 u.source).extract 0 count)]) :
    (whole done ++ begun).map Prod.fst <+: done ++ rest := by
  rw [List.map_append, map_fst_whole, List.prefix_append_right_inj]
  rcases h with rfl | ⟨u, others, count, rfl, rfl⟩
  · exact List.nil_prefix
  · exact ⟨others, rfl⟩

/-- Of units those are written that come before the first that cannot be, and of that one at most
the beginning. -/
theorem exists_filled_of_units (disk : Directory → Disk) (d : Directory) (us : List Action.Unit) :
    let emission := Output.emitAll (inDirectoryOn disk) d (us.map fun u => (u.name, u.source))
    ∃ done rest begun, us = done ++ rest ∧
      (begun = [] ∨ ∃ u others count, rest = u :: others ∧
        begun = [(u, (Text.utf8 u.source).extract 0 count)]) ∧
      d.Filled emission.store ((whole done ++ begun).map fun c => (c.1.name, c.2)) ∧
      ((∃ locations, emission.outcome = .ok locations) → done = us ∧ begun = []) := by
  intro emission
  obtain ⟨written, rest, begun, heq, ⟨hfilled, -⟩, houtcome⟩ :=
    Output.emitAll_inDirectoryOn disk d (us.map fun u => (u.name, u.source))
  obtain ⟨done, others, rfl, rfl, rfl⟩ := List.map_eq_append_iff.mp heq
  have hwholes : Output.wholes (done.map fun u => (u.name, u.source))
      = (whole done).map fun c => (c.1.name, c.2) := by
    simp only [Output.wholes, whole, List.map_map, Function.comp_def]
  rw [hwholes] at hfilled
  cases hout : emission.outcome with
  | ok locations =>
    rw [hout] at houtcome
    obtain ⟨hrest, rfl, -⟩ := houtcome
    obtain rfl := List.map_eq_nil_iff.mp hrest
    refine ⟨done, [], [], rfl, Or.inl rfl, ?_, fun _ => ⟨(List.append_nil done).symm, rfl⟩⟩
    rwa [List.append_nil (whole done), ← List.append_nil (List.map _ (whole done))]
  | error e =>
    rw [hout] at houtcome
    obtain ⟨p, modules, hrest, hbegun⟩ := houtcome
    obtain ⟨u, later, rfl, rfl, -⟩ := List.map_eq_cons_iff.mp hrest
    rcases hbegun with rfl | ⟨count, rfl⟩
    · exact ⟨done, u :: later, [], rfl, Or.inl rfl, by rwa [List.append_nil] at hfilled ⊢,
        fun ⟨_, hok⟩ => nomatch hok⟩
    · refine ⟨done, u :: later, _, rfl, Or.inr ⟨u, later, count, rfl, rfl⟩, ?_,
        fun ⟨_, hok⟩ => nomatch hok⟩
      rwa [List.map_append]

/-- **What is written stays inside the directory**, where no name that is declared has a slash.  The
units before the first that cannot be written have their files there, and so has that one if it was
begun; units with different names have different files.  So where repeated names are a failure,
every unit that is written is kept. -/
theorem generate_inDirectory (source : String) (v : Value) (doc : Document)
    (hcheck : Loading.check source v = .ok doc) (g : Generator) (load : Loader)
    (hopens : g.Opens load doc)
    (hids : ∀ o ∈ chosen doc g.settings, ∀ id, o.operation.operationId = some id → '/' ∉ id.toList)
    (hslash : '/' ∉ g.settings.fileExtension.toList) (disk : Directory → Disk) (d : Directory)
    (hext : d.extension = g.settings.fileExtension) :
    let out := g.generate load (inDirectoryOn disk) d
    (∀ e, (g.units load none).result = .error e → out.2 = d) ∧
      ∀ us, (g.units load none).result = .ok us → ∃ done rest begun, us = done ++ rest ∧
        (begun = [] ∨ ∃ u others count, rest = u :: others ∧
          begun = [(u, (Text.utf8 u.source).extract 0 count)]) ∧
        StaysInside g.settings (whole done ++ begun) d out.2 ∧
        ((∃ locations, out.1.result = .ok locations) → done = us ∧ begun = []) ∧
        (g.settings.failOnCollision = true →
          ((whole done ++ begun).map fun c => c.1.name).Nodup) := by
  refine ⟨fun e he => generate_of_error he, fun us hus => ?_⟩
  obtain ⟨hresult, hstore⟩ : (g.generate load (inDirectoryOn disk) d).1.result = _ ∧ _ = _ :=
    generate_of_ok hus
  obtain ⟨done, rest, begun, rfl, hbegun, hfilled, hok⟩ := exists_filled_of_units disk d us
  have htaking : (g.taking none).Opens load doc := hopens
  have hnames := not_mem_fileOf hcheck hids hslash (htaking.forall₂_of_units hus)
  have hopened := map_fst_prefix done hbegun
  rw [hstore, hresult]
  refine ⟨done, rest, begun, rfl, hbegun, ?_, hok, fun hfail => ?_⟩
  · exact staysInside_of_filled hfilled hext fun c hc =>
      hnames c.1 (hopened.subset (List.mem_map_of_mem hc))
  · have hnodup := (hopened.sublist.map Action.Unit.name).nodup (nodup_of_units hfail hus)
    rwa [List.map_map] at hnodup

end

/-! ### Names that are paths -/

/-- A description with operations on paths of their own that declare names. -/
def operationsNamed (ids : List (String × String)) : Fields :=
  [(.str "paths", .map (ids.map fun p =>
    (.str p.1, .map [(.str "get", .map [(.str "operationId", .str p.2)])])))]

/-- The description as it is read. -/
def documentNamed (ids : List (String × String)) : Document where
  contents := ⟨none, none, none,
    ids.map fun p => (p.1, ⟨none, none, none, [("get", named p.2)], []⟩), none, []⟩
  raw := operationsNamed ids

/-- A generator for which repeated names are a failure. -/
def strictGenerator : Generator :=
  .new { DocumentSettings.ofSource "api.yaml" "out" with failOnCollision := true }

/-- A directory that is not there yet. -/
def freshDirectory : Directory := ⟨.ofText "out", ".ts", [], ⟨[]⟩, []⟩

/-- The units of the operations. -/
def namedUnits (ids : List (String × String)) : List Action.Unit :=
  ids.map fun p => interleavedUnit p.1 "get" p.2

/-- What comes of generating into it. -/
def writtenFor (ids : List (String × String)) : Outcome (List String) × Directory :=
  strictGenerator.generate (fun _ => .ok (documentNamed ids)) inDirectory freshDirectory

/-- What comes of putting their octets there. -/
def putFor (ids : List (String × String)) : Output.Emission Directory (List String) :=
  strictGenerator.put (fun _ => .ok (documentNamed ids)) freshDirectory

/-- Two operations without a slash in their names have their files in the directory. -/
theorem generate_inDirectory_apart :
    let ids := [("/a", "list"), ("/b", "add")]
    let load : Loader := fun _ => .ok (documentNamed ids)
    Loading.check "api.yaml" (.map (operationsNamed ids)) = .ok (documentNamed ids) ∧
      strictGenerator.Opens load (documentNamed ids) ∧
      (∀ o ∈ chosen (documentNamed ids) strictGenerator.settings, ∀ id,
        o.operation.operationId = some id → '/' ∉ id.toList) ∧
      '/' ∉ strictGenerator.settings.fileExtension.toList ∧
      freshDirectory.extension = strictGenerator.settings.fileExtension ∧
      (writtenFor ids).1.result = .ok ["out/list.ts", "out/add.ts"] ∧
      StaysInside strictGenerator.settings (whole (namedUnits ids)) freshDirectory
        (writtenFor ids).2 := by
  intro ids load
  have hopens : strictGenerator.Opens load (documentNamed ids) := .loaded rfl rfl
  have hids : ∀ o ∈ chosen (documentNamed ids) strictGenerator.settings, ∀ id,
      o.operation.operationId = some id → '/' ∉ id.toList := by
    intro o ho id hid
    rcases List.mem_cons.mp ho with rfl | ho
    · cases hid
      decide
    · rw [List.mem_singleton.mp ho] at hid
      cases hid
      decide
  have hresult : (writtenFor ids).1.result = .ok ["out/list.ts", "out/add.ts"] := by
    have hput : (putFor ids).outcome = .ok ["out/list.ts", "out/add.ts"] :=
      eq_ok_of_toOption (by decide +kernel)
    exact (generate_eq_put rfl (by decide +kernel)).1.trans hput
  obtain ⟨-, hwritten⟩ := generate_inDirectory "api.yaml" (.map (operationsNamed ids))
    (documentNamed ids) rfl strictGenerator load hopens hids (by decide) (fun _ => Disk.sound)
    freshDirectory rfl
  obtain ⟨done, rest, begun, -, -, hinside, hall, -⟩ := hwritten (namedUnits ids) rfl
  obtain ⟨rfl, rfl⟩ := hall ⟨_, hresult⟩
  rw [List.append_nil] at hinside
  exact ⟨rfl, hopens, hids, by decide, rfl, hresult, hinside⟩

/-- A name with a slash leads out of the directory, and to the file of an operation with another
name, although repeated names are a failure. -/
theorem slash_leads_out :
    let leading := [("/a", "../list")]
    let shared := [("/a", "list"), ("/b", "./list")]
    Loading.check "api.yaml" (.map (operationsNamed leading)) = .ok (documentNamed leading) ∧
      Loading.check "api.yaml" (.map (operationsNamed shared)) = .ok (documentNamed shared) ∧
      (∃ trail, (writtenFor leading).2.target? "../list" = some trail ∧
        ((writtenFor leading).2.tree.fileAt? trail).isSome = true ∧
        ¬ ∃ directory name, (writtenFor leading).2.IsAt directory ∧ trail = directory ++ [name]) ∧
      (writtenFor shared).1.result.toOption = some ["out/list.ts", "out/list.ts"] ∧
      (writtenFor shared).2.target? "list" = (writtenFor shared).2.target? "./list" := by
  intro leading shared
  obtain ⟨-, hleading⟩ : _ ∧ (writtenFor leading).2 = (putFor leading).store :=
    generate_eq_put rfl (by decide +kernel)
  obtain ⟨hresult, hshared⟩ : (writtenFor shared).1.result = (putFor shared).outcome ∧
      (writtenFor shared).2 = (putFor shared).store := generate_eq_put rfl (by decide +kernel)
  rw [hleading, hresult, hshared]
  have hat : (putFor leading).store.IsAt ["out"] := by
    unfold Directory.IsAt
    decide +kernel
  refine ⟨rfl, rfl, ⟨["list.ts"], by decide +kernel, by decide +kernel, ?_⟩, by decide +kernel,
    by decide +kernel⟩
  rintro ⟨directory, name, hat', htrail⟩
  obtain rfl := Except.ok.inj (hat.symm.trans hat')
  exact absurd (List.head_eq_of_cons_eq htrail) (by decide)

end ServerActions.Generation
