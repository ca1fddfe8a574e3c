import Mathlib.Data.List.Induction
import ServerActions.Output.Emitter
import ServerActions.Proofs.Files.Tree

/-!
# Modules in a directory

Modules that are written one after the other change the files at the end of their trails and no
others; where several have one trail the last one stays.  What is written after a module changes
nothing of where its path leads.  The module at which the writing ends may have been begun.  A file
name without a slash leads into the directory itself, and to different files for different names.

## Main definitions

* `Directory.target?` — the trail of the file of a name.
* `Directory.IsAt` — the trail of the directory.
* `Directory.Filled` — a directory after contents were put into files.
* `Directory.Cuts` — what is left of a module whose file was opened.
* `Directory.Wrote` — a directory after modules were written into it.

## Main results

* `inDirectoryOn_spec` — what comes of one module.
* `emitAll_inDirectoryOn` — **what is written is the modules before the first that cannot be**.
* `target?_of_not_mem` — without a slash in its name a file is in the directory itself.
-/

namespace ServerActions.Output

open Files (Disk Trail Tree)

variable {d d' d'' : Directory} {name source : String}

/-! ### One module -/

/-- The trail of the file of a name. -/
def Directory.target? (d : Directory) (name : String) : Option Trail :=
  d.tree.target? d.cwd (d.location name)

/-- Where the directory is. -/
def Directory.IsAt (d : Directory) (trail : Trail) : Prop :=
  d.tree.walk (d.path.start d.cwd) d.path.parts = .ok trail

/-- The directory goes by the same path, from the same place, and gives the same file names. -/
structure Directory.Same (d d' : Directory) : Prop where
  path : d'.path = d.path
  extension : d'.extension = d.extension
  cwd : d'.cwd = d.cwd

theorem Directory.Same.refl (d : Directory) : d.Same d := ⟨rfl, rfl, rfl⟩

theorem Directory.Same.trans (h : d.Same d') (h' : d'.Same d'') : d.Same d'' :=
  ⟨h'.path.trans h.path, h'.extension.trans h.extension, h'.cwd.trans h.cwd⟩

theorem Directory.Same.location (h : d.Same d') (name : String) :
    d'.location name = d.location name := by
  rw [Directory.location, Directory.location, Directory.fileName, Directory.fileName, h.path,
    h.extension]

/-- A file is at the same place while directories are kept. -/
theorem Directory.target?_mono (hsame : d.Same d') (h : d.tree.KeepsDirectories d'.tree)
    {trail : Trail} (htarget : d.target? name = some trail) : d'.target? name = some trail := by
  rw [Directory.target?, hsame.location, hsame.cwd]
  exact Tree.target?_mono h htarget

/-- The directory stays where it is while directories are kept. -/
theorem Directory.IsAt.mono (hsame : d.Same d') (h : d.tree.KeepsDirectories d'.tree)
    {trail : Trail} (hat : d.IsAt trail) : d'.IsAt trail := by
  rw [Directory.IsAt, hsame.path, hsame.cwd]
  exact Tree.walk_mono h hat

/-- Contents are put into files, and nothing but directories changes beside these. -/
structure Directory.Filled (d d' : Directory) (cs : List (String × ByteArray)) : Prop where
  same : d.Same d'
  keeps : d.tree.KeepsDirectories d'.tree
  /-- Each content has a file. -/
  targets : ∀ c ∈ cs, ∃ trail, d'.target? c.1 = some trail
  /-- At the end of a trail is the last of the contents put there, or what was there before. -/
  files : ∀ trail, d'.tree.fileAt? trail
    = ((cs.filter fun c => d'.target? c.1 = some trail).getLast?.map Prod.snd).or
      (d.tree.fileAt? trail)
  /-- The directory is there, if there are contents. -/
  there : cs ≠ [] → ∃ trail, d'.IsAt trail

theorem Directory.filled_nil (hsame : d.Same d') (hgrows : d.tree.Grows d'.tree) :
    d.Filled d' [] :=
  ⟨hsame, hgrows.keepsDirectories, fun _ hc => absurd hc List.not_mem_nil,
    fun trail => hgrows.fileAt? trail, fun hne => absurd rfl hne⟩

/-- A content that is put at the end of a trail has its file there. -/
theorem Directory.filled_set {t : Tree} {directory trail : Trail} (hgrows : d.tree.Grows t)
    (hwalk : t.walk (d.path.start d.cwd) d.path.parts = .ok directory)
    (htarget : t.target? d.cwd (d.location name) = some trail)
    (hfree : t.get? trail ≠ some .directory) (content : ByteArray) (written : List String) :
    d.Filled ⟨d.path, d.extension, written, t.set trail (.file content), d.cwd⟩
      [(name, content)] := by
  have hkeeps := Tree.keepsDirectories_set hfree (.file content)
  have htarget' : Directory.target?
      ⟨d.path, d.extension, written, t.set trail (.file content), d.cwd⟩ name = some trail :=
    Tree.target?_mono hkeeps htarget
  refine ⟨⟨rfl, rfl, rfl⟩, hgrows.keepsDirectories.trans hkeeps,
    List.forall_mem_singleton.mpr ⟨trail, htarget'⟩, fun other => ?_,
    fun _ => ⟨directory, Tree.walk_mono hkeeps hwalk⟩⟩
  rw [Tree.fileAt?_set hfree, hgrows.fileAt?]
  by_cases heq : other = trail
  · simp [htarget', heq]
  · simp [htarget', heq, Ne.symm heq]

/-- Contents stay where none of those that are put there afterwards is. -/
theorem Directory.Filled.append {cs cs' : List (String × ByteArray)} (h : d.Filled d' cs)
    (h' : d'.Filled d'' cs') : d.Filled d'' (cs ++ cs') := by
  have htargets : ∀ c ∈ cs, d''.target? c.1 = d'.target? c.1 := by
    intro c hc
    obtain ⟨trail, htarget⟩ := h.targets c hc
    rw [htarget, target?_mono h'.same h'.keeps htarget]
  refine ⟨h.same.trans h'.same, h.keeps.trans h'.keeps, fun c hc => ?_, fun trail => ?_,
    fun hne => ?_⟩
  · rcases List.mem_append.mp hc with hc | hc
    · rw [htargets c hc]
      exact h.targets c hc
    · exact h'.targets c hc
  · have hfilter : cs.filter (fun c => d''.target? c.1 = some trail)
        = cs.filter fun c => d'.target? c.1 = some trail :=
      List.filter_congr fun c hc => by rw [htargets c hc]
    rw [h'.files, h.files, List.filter_append, List.getLast?_append, hfilter, Option.map_or,
      Option.or_assoc]
  · by_cases hcs : cs = []
    · exact h'.there (by rwa [hcs, List.nil_append] at hne)
    · obtain ⟨trail, hat⟩ := h.there hcs
      exact ⟨trail, hat.mono h'.same h'.keeps⟩

/-- A file is not opened, and nothing but directories changes, or it is opened and has what is kept
from then on. -/
theorem Directory.put_cases (d : Directory) (disk : Disk) (name : String)
    (kept : ByteArray × Except Cause Unit) :
    let out := d.put disk (d.location name) kept
    (∃ c, out.outcome = .error (writeFailure (d.location name) c) ∧
        out.store.written = d.written ∧ d.Filled out.store []) ∨
      d.Filled out.store [(name, kept.1)] ∧
        match kept.2 with
        | .ok _ => out.outcome = .ok (d.location name).text ∧
            out.store.written = d.written ++ [(d.location name).text]
        | .error c => out.outcome = .error (writeFailure (d.location name) c) ∧
            out.store.written = d.written := by
  obtain ⟨hgrows, hthere⟩ := Tree.makeDirectoriesOn_spec d.tree disk d.cwd d.path
  intro out
  -- The directories are made first, and the file is opened only when they are there.
  rcases hmake : d.tree.makeDirectoriesOn disk d.cwd d.path with ⟨c | _, t⟩
  · rw [hmake] at hgrows
    simp only [out, Directory.put, hmake]
    exact Or.inl ⟨c, rfl, trivial, Directory.filled_nil ⟨rfl, rfl, rfl⟩ hgrows⟩
  · rw [hmake] at hgrows hthere
    rcases Tree.overwrite_cases t disk d.cwd (d.location name) kept with
      ⟨c, hwrite⟩ | ⟨trail, htarget, hfree, hwrite⟩
    · simp only [out, Directory.put, hmake, hwrite]
      exact Or.inl ⟨c, rfl, trivial, Directory.filled_nil ⟨rfl, rfl, rfl⟩ hgrows⟩
    · obtain ⟨directory, hwalk⟩ := hthere rfl
      have hfilled := Directory.filled_set hgrows hwalk htarget hfree kept.1
      refine Or.inr ?_
      obtain ⟨content, c | _⟩ := kept <;> simp only [out, Directory.put, hmake, hwrite]
      · exact ⟨hfilled _, trivial, trivial⟩
      · exact ⟨hfilled _, trivial, trivial⟩

/-- Where a file is opened, the failure is what kept the disk from keeping more. -/
theorem Directory.put_error (d : Directory) (disk : Disk) (p : Files.Path) (content : ByteArray)
    (c : Cause) (h : (d.put disk p (content, .ok ())).outcome.toOption.isSome = true) :
    (d.put disk p (content, .error c)).outcome = .error (writeFailure p c) ∧
      (d.put disk p (content, .error c)).store.tree
        = (d.put disk p (content, .ok ())).store.tree := by
  revert h
  unfold Directory.put Tree.overwrite
  rcases d.tree.makeDirectoriesOn disk d.cwd d.path with ⟨_ | _, t⟩
  · exact fun h => nomatch h
  · dsimp only
    rcases t.write d.cwd p content with ⟨_ | _, t'⟩
    · exact fun h => nomatch h
    · cases disk.opening p with
      | some reason => exact fun h => nomatch h
      | none => exact fun _ => ⟨rfl, rfl⟩

/-- What is left in the file of a module that was opened, and why it is not the whole module. -/
structure Directory.Cuts (d : Directory) (disk : Directory → Disk) (name source : String)
    (e : Failure) (content : ByteArray) : Prop where
  /-- The disk keeps no more, or the module has no octets. -/
  kept : ∃ c, (disk d).keep (d.location name) source = (content, .error c) ∧
    e = writeFailure (d.location name) c
  /-- It is the beginning of the module. -/
  beginning : ∃ count, content = (Text.utf8 source).extract 0 count

/-- A module is written, and its location is the result, or it is not: then its file is not opened,
or holds the beginning of it. -/
theorem inDirectoryOn_spec (disk : Directory → Disk) (d : Directory) (name source : String) :
    match (inDirectoryOn disk d name source).outcome with
    | .ok location => location = (d.location name).text ∧
        (inDirectoryOn disk d name source).store.written = d.written ++ [location] ∧
        d.Filled (inDirectoryOn disk d name source).store [(name, Text.utf8 source)]
    | .error e => (∃ c, e = writeFailure (d.location name) c) ∧
        (inDirectoryOn disk d name source).store.written = d.written ∧
        (d.Filled (inDirectoryOn disk d name source).store [] ∨
          ∃ content, d.Cuts disk name source e content ∧
            d.Filled (inDirectoryOn disk d name source).store [(name, content)]) := by
  have hcases := d.put_cases (disk d) name ((disk d).keep (d.location name) source)
  rw [inDirectoryOn]
  dsimp only at hcases
  generalize d.put (disk d) (d.location name) ((disk d).keep (d.location name) source) = out
    at hcases ⊢
  rcases (disk d).keep_cases (d.location name) source with hkeep | ⟨count, c, hkeep⟩ <;>
    rw [hkeep] at hcases <;>
    obtain ⟨c, houtcome, hwritten, hfilled⟩ | ⟨hfilled, houtcome, hwritten⟩ := hcases <;>
    rw [houtcome]
  · exact ⟨⟨c, rfl⟩, hwritten, Or.inl hfilled⟩
  · exact ⟨rfl, hwritten, hfilled⟩
  · exact ⟨⟨c, rfl⟩, hwritten, Or.inl hfilled⟩
  · exact ⟨⟨c, rfl⟩, hwritten, Or.inr ⟨_, ⟨⟨c, hkeep, rfl⟩, count, rfl⟩, hfilled⟩⟩

/-! ### Emissions one after the other -/

section

variable {σ : Type} {emit : Emitter σ} {store : σ} {ps rest : List (String × String)}
  {p : String × String} {locations : List String} {e : Failure}

/-- Modules are put the same if each of them is. -/
theorem emitAll_congr {emit' : Emitter σ}
    (h : ∀ store, ∀ p ∈ ps, emit store p.1 p.2 = emit' store p.1 p.2) :
    emitAll emit store ps = emitAll emit' store ps := by
  induction ps generalizing store with
  | nil => rfl
  | cons p ps ih =>
    have hfirst := h store p (List.mem_cons_self ..)
    have hrest := fun store => @ih store fun s q hq => h s q (List.mem_cons_of_mem _ hq)
    simp only [emitAll, hfirst, hrest]

/-- Those that follow a module that could be put are put where it left off. -/
theorem emitAll_cons_of_ok {location : String} (h : (emit store p.1 p.2).outcome = .ok location)
    (ps : List (String × String)) :
    (emitAll emit store (p :: ps)).outcome
        = (emitAll emit (emit store p.1 p.2).store ps).outcome.map (location :: ·) ∧
      (emitAll emit store (p :: ps)).store
        = (emitAll emit (emit store p.1 p.2).store ps).store := by
  rw [emitAll, h]
  exact ⟨rfl, rfl⟩

/-- After a module that cannot be put no more are tried. -/
theorem emitAll_cons_of_error (h : (emit store p.1 p.2).outcome = .error e)
    (ps : List (String × String)) :
    (emitAll emit store (p :: ps)).outcome = .error e ∧
      (emitAll emit store (p :: ps)).store = (emit store p.1 p.2).store := by
  rw [emitAll, h]
  exact ⟨rfl, rfl⟩

/-- After modules that could be put, those that follow are put where these left off. -/
theorem emitAll_append (hdone : (emitAll emit store ps).outcome = .ok locations)
    (rest : List (String × String)) :
    (emitAll emit store (ps ++ rest)).outcome
        = (emitAll emit (emitAll emit store ps).store rest).outcome.map (locations ++ ·) ∧
      (emitAll emit store (ps ++ rest)).store
        = (emitAll emit (emitAll emit store ps).store rest).store := by
  induction ps generalizing store locations with
  | nil =>
    cases hdone
    refine ⟨?_, rfl⟩
    change (emitAll emit store rest).outcome = (emitAll emit store rest).outcome.map ([] ++ ·)
    cases (emitAll emit store rest).outcome <;> rfl
  | cons p ps ih =>
    cases hfirst : (emit store p.1 p.2).outcome with
    | error e =>
      rw [(emitAll_cons_of_error hfirst ps).1] at hdone
      cases hdone
    | ok location =>
      obtain ⟨houtcome, hstore⟩ := emitAll_cons_of_ok hfirst ps
      obtain ⟨hall, hallStore⟩ := emitAll_cons_of_ok hfirst (ps ++ rest)
      rw [houtcome] at hdone
      cases hothers : (emitAll emit (emit store p.1 p.2).store ps).outcome with
      | error e =>
        rw [hothers] at hdone
        cases hdone
      | ok others =>
        rw [hothers] at hdone
        cases hdone
        obtain ⟨hlater, hlaterStore⟩ := ih hothers
        rw [List.cons_append, hall, hallStore, hlater, hlaterStore, hstore]
        refine ⟨?_, rfl⟩
        cases (emitAll emit (emitAll emit (emit store p.1 p.2).store ps).store rest).outcome <;> rfl

/-- A module that cannot be put after others is the last that is tried. -/
theorem emitAll_of_failure (hdone : (emitAll emit store ps).outcome = .ok locations)
    (hfails : (emit (emitAll emit store ps).store p.1 p.2).outcome = .error e) :
    (emitAll emit store (ps ++ p :: rest)).outcome = .error e ∧
      (emitAll emit store (ps ++ p :: rest)).store
        = (emit (emitAll emit store ps).store p.1 p.2).store := by
  obtain ⟨hall, hallStore⟩ := emitAll_append hdone (p :: rest)
  obtain ⟨houtcome, hstore⟩ := emitAll_cons_of_error hfails rest
  rw [hall, hallStore, houtcome, hstore]
  exact ⟨rfl, rfl⟩

/-- Where not all modules can be put, there is a first that cannot. -/
theorem exists_failure_of_emitAll (h : (emitAll emit store ps).outcome = .error e) :
    ∃ done p rest locations, ps = done ++ p :: rest ∧
      (emitAll emit store done).outcome = .ok locations ∧
      (emit (emitAll emit store done).store p.1 p.2).outcome = .error e := by
  induction ps generalizing store with
  | nil => cases h
  | cons p ps ih =>
    cases hfirst : (emit store p.1 p.2).outcome with
    | error e' =>
      rw [(emitAll_cons_of_error hfirst ps).1] at h
      cases h
      exact ⟨[], p, ps, [], rfl, rfl, hfirst⟩
    | ok location =>
      rw [(emitAll_cons_of_ok hfirst ps).1] at h
      cases hothers : (emitAll emit (emit store p.1 p.2).store ps).outcome with
      | ok others =>
        rw [hothers] at h
        cases h
      | error e' =>
        rw [hothers] at h
        cases h
        -- The first that cannot be put is found among those that follow.
        obtain ⟨done, q, rest, locations, rfl, hdone, hfails⟩ := ih hothers
        obtain ⟨houtcome, hstore⟩ := emitAll_cons_of_ok hfirst done
        refine ⟨p :: done, q, rest, location :: locations, rfl, ?_, ?_⟩
        · rw [houtcome, hdone]
          rfl
        · rwa [hstore]

end

/-! ### What is written -/

/-- Modules with all of their octets. -/
def wholes (ps : List (String × String)) : List (String × ByteArray) :=
  ps.map fun p => (p.1, Text.utf8 p.2)

section

variable {disk : Directory → Disk}

/-- A directory after modules were written into it, of which a further one may have been begun. -/
structure Directory.Wrote (d d' : Directory) (ps : List (String × String))
    (begun : List (String × ByteArray)) : Prop where
  filled : d.Filled d' (wholes ps ++ begun)
  written : d'.written = d.written ++ ps.map fun p => (d.location p.1).text

theorem Directory.wrote_nil (d : Directory) : d.Wrote d [] [] :=
  ⟨Directory.filled_nil (.refl d) (.refl d.tree), (List.append_nil _).symm⟩

/-- A module written before others is the first of all of them. -/
theorem Directory.Filled.wrote {ps : List (String × String)} {begun : List (String × ByteArray)}
    (h : d.Filled d' [(name, Text.utf8 source)])
    (hwritten : d'.written = d.written ++ [(d.location name).text])
    (hrest : d'.Wrote d'' ps begun) :
    d.Wrote d'' ((name, source) :: ps) begun := by
  refine ⟨h.append hrest.filled, ?_⟩
  rw [hrest.written, hwritten, List.append_assoc, List.map_cons, List.singleton_append]
  simp only [h.same.location]

/-- **What is written is the modules before the first that cannot be**, and of that one at most the
beginning. -/
theorem emitAll_inDirectoryOn (disk : Directory → Disk) (d : Directory)
    (ps : List (String × String)) :
    ∃ done rest begun, ps = done ++ rest ∧
      d.Wrote (emitAll (inDirectoryOn disk) d ps).store done begun ∧
      match (emitAll (inDirectoryOn disk) d ps).outcome with
      | .ok locations =>
        rest = [] ∧ begun = [] ∧ locations = done.map fun p => (d.location p.1).text
      | .error _ => ∃ p others, rest = p :: others ∧
        (begun = [] ∨ ∃ count, begun = [(p.1, (Text.utf8 p.2).extract 0 count)]) := by
  induction ps generalizing d with
  | nil => exact ⟨[], [], [], rfl, d.wrote_nil, rfl, rfl, rfl⟩
  | cons p ps ih =>
    have hfirst := inDirectoryOn_spec disk d p.1 p.2
    cases hout : (inDirectoryOn disk d p.1 p.2).outcome with
    | error e =>
      rw [hout] at hfirst
      obtain ⟨houtcome, hstore⟩ := emitAll_cons_of_error hout ps
      rw [houtcome, hstore]
      obtain ⟨-, hwritten, hfilled | ⟨content, ⟨-, count, rfl⟩, hfilled⟩⟩ := hfirst
      · exact ⟨[], p :: ps, [], rfl, ⟨hfilled, by rw [hwritten, List.map_nil, List.append_nil]⟩,
          p, ps, rfl, Or.inl rfl⟩
      · exact ⟨[], p :: ps, _, rfl, ⟨hfilled, by rw [hwritten, List.map_nil, List.append_nil]⟩,
          p, ps, rfl, Or.inr ⟨count, rfl⟩⟩
    | ok location =>
      rw [hout] at hfirst
      obtain ⟨rfl, hwritten, hfilled⟩ := hfirst
      obtain ⟨houtcome, hstore⟩ := emitAll_cons_of_ok hout ps
      obtain ⟨done, rest, begun, hps, hwrote, hlater⟩ := ih (inDirectoryOn disk d p.1 p.2).store
      rw [houtcome, hstore]
      refine ⟨p :: done, rest, begun, congrArg (p :: ·) hps, hfilled.wrote hwritten hwrote, ?_⟩
      -- Writing a module changes nothing of where the others go.
      simp only [hfilled.same.location] at hlater
      cases hrest :
          (emitAll (inDirectoryOn disk) (inDirectoryOn disk d p.1 p.2).store ps).outcome with
      | error e =>
        rw [hrest] at hlater
        exact hlater
      | ok locations =>
        rw [hrest] at hlater
        obtain ⟨rfl, rfl, rfl⟩ := hlater
        exact ⟨rfl, rfl, rfl⟩

/-- Modules that could all be written are there. -/
theorem wrote_of_ok {ps : List (String × String)} {locations : List String}
    (h : (emitAll (inDirectoryOn disk) d ps).outcome = .ok locations) :
    d.Wrote (emitAll (inDirectoryOn disk) d ps).store ps [] := by
  obtain ⟨done, rest, begun, rfl, hwrote, houtcome⟩ := emitAll_inDirectoryOn disk d ps
  rw [h] at houtcome
  obtain ⟨rfl, rfl, -⟩ := houtcome
  rwa [List.append_nil] at hwrote ⊢

end

/-! ### File names without a slash -/

/-- A file name without a slash is one part of a path, unless it stays in place. -/
theorem parts_of_not_mem {file : String} (h : '/' ∉ file.toList) :
    Files.Path.ofText file = ⟨"", if file = "" ∨ file = "." then [] else [file]⟩ := by
  have hroot : file.toList.takeWhile (· == '/') = [] := by
    cases hfile : file.toList with
    | nil => rfl
    | cons c cs =>
      have hc : c ≠ '/' := fun heq => h (hfile ▸ heq ▸ List.mem_cons_self ..)
      rw [List.takeWhile_cons_of_neg (by simpa using hc)]
  have hparts : Files.partsOf file.toList = if file = "" ∨ file = "." then [] else [file] := by
    rw [Files.partsOf, Text.cut_of_not_mem h, List.map_cons, List.map_nil, String.ofList_toList]
    split_ifs with hstays
    · exact List.filter_cons_of_neg (by rcases hstays with h | h <;> simp [h])
    · exact List.filter_cons_of_pos (by simpa using not_or.mp hstays)
  rw [Files.Path.ofText, Files.rootOf, hroot, hparts]
  rfl

/-- Such a name leads to a file right in the directory, or to the directory itself. -/
theorem Directory.location_of_not_mem (h : '/' ∉ (d.fileName name).toList) :
    d.location name = d.path ∨
      d.location name = ⟨d.path.root, d.path.parts ++ [d.fileName name]⟩ := by
  rw [Directory.location, parts_of_not_mem h]
  split_ifs
  · exact Or.inl (congrArg (Files.Path.mk d.path.root) (List.append_nil _))
  · exact Or.inr rfl

/-- **Without a slash in its name a file is in the directory itself.** -/
theorem Directory.target?_of_not_mem (h : '/' ∉ (d.fileName name).toList) {trail : Trail}
    (htarget : d.target? name = some trail) {content : ByteArray}
    (hfile : d.tree.fileAt? trail = some content) {directory : Trail} (hat : d.IsAt directory) :
    trail = directory ++ [d.fileName name] := by
  obtain ⟨outer, last, hending, rfl⟩ := Tree.target?_eq_some.mp htarget
  obtain ⟨-, hwalk, hlast, hup, -⟩ := Tree.ending_eq_named.mp hending
  rcases d.location_of_not_mem h with hlocation | hlocation
  · -- At the end of the directory's own path is no file.
    rw [hlocation] at hwalk hlast
    have hthere := Tree.get?_of_walk hwalk hlast hup hat
    rw [Tree.fileAt?, hthere] at hfile
    cases hfile
  · rw [hlocation] at hwalk hlast
    dsimp only at hwalk hlast
    rw [List.dropLast_concat] at hwalk
    rw [List.getLast?_concat] at hlast
    rw [Except.ok.inj (hwalk.symm.trans hat), Option.some.inj hlast]

end ServerActions.Output
