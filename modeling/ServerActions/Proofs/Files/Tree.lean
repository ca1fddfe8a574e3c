import Mathlib.Tactic.SplitIfs
import ServerActions.Files.Tree

/-!
# What file operations change

Making directories adds directories and changes nothing else.  Writing a file changes what is at the
end of one trail, where no directory is, and may leave only the beginning of a text there.  Neither
takes a directory away, so a path that leads somewhere leads to the same place afterwards.

## Main definitions

* `Tree.fileAt?` — the octets of the file at the end of a trail.
* `Tree.KeepsDirectories`, `Tree.Grows` — a tree has the directories of another, or differs from it
  in additional directories only.
* `Tree.target?` — the trail at whose end a path has its file.

## Main results

* `walk_mono`, `target?_mono` — paths lead to the same place while directories are kept.
* `makeDirectoriesOn_spec`, `overwrite_cases` — **what making directories and writing a text into a
  file change**, whatever the disk refuses.
* `Disk.keep_cases` — a disk keeps a text, or the beginning of it.
-/

namespace ServerActions.Files

/-! ### Trees compared -/

/-- The octets of the file at the end of a trail. -/
def Tree.fileAt? (t : Tree) (trail : Trail) : Option ByteArray :=
  match t.get? trail with
  | some (.file content) => some content
  | _ => none

/-- The directories of a tree are directories of another. -/
def Tree.KeepsDirectories (t t' : Tree) : Prop :=
  ∀ trail, t.get? trail = some .directory → t'.get? trail = some .directory

/-- A tree differs from another in additional directories only. -/
def Tree.Grows (t t' : Tree) : Prop :=
  ∀ trail, t'.get? trail = t.get? trail ∨ t.get? trail = none ∧ t'.get? trail = some .directory

section

variable {t t' t'' : Tree} {trail : Trail}

theorem Tree.KeepsDirectories.trans (h : t.KeepsDirectories t') (h' : t'.KeepsDirectories t'') :
    t.KeepsDirectories t'' :=
  fun trail htrail => h' trail (h trail htrail)

theorem Tree.Grows.refl (t : Tree) : t.Grows t :=
  fun _ => Or.inl rfl

theorem Tree.Grows.trans (h : t.Grows t') (h' : t'.Grows t'') : t.Grows t'' := by
  intro trail
  rcases h' trail with h' | ⟨hnone, hdirectory⟩
  · rw [h']
    exact h trail
  · rcases h trail with h | ⟨-, hsome⟩
    · exact Or.inr ⟨h ▸ hnone, hdirectory⟩
    · cases hsome.symm.trans hnone

theorem Tree.Grows.keepsDirectories (h : t.Grows t') : t.KeepsDirectories t' := by
  intro trail htrail
  rcases h trail with h | ⟨-, hdirectory⟩
  · rw [h, htrail]
  · exact hdirectory

/-- Additional directories are no files. -/
theorem Tree.Grows.fileAt? (h : t.Grows t') (trail : Trail) :
    t'.fileAt? trail = t.fileAt? trail := by
  unfold Tree.fileAt?
  rcases h trail with h | ⟨hnone, hdirectory⟩
  · rw [h]
  · rw [hnone, hdirectory]

theorem Tree.ne_nil_of_get? {t : Tree} (h : t.get? trail ≠ some .directory) : trail ≠ [] := by
  rintro rfl
  exact h rfl

theorem Tree.grows_set_directory (h : t.get? trail = none) : t.Grows (t.set trail .directory) := by
  have hne : trail ≠ [] := Tree.ne_nil_of_get? (by rw [h]; exact fun h => nomatch h)
  intro other
  by_cases heq : other = trail
  · exact Or.inr ⟨heq ▸ h, heq ▸ t.get?_set_self hne _⟩
  · exact Or.inl (t.get?_set_ne heq _)

theorem Tree.keepsDirectories_set (h : t.get? trail ≠ some .directory) (e : Entry) :
    t.KeepsDirectories (t.set trail e) := by
  intro other hother
  have hne : other ≠ trail := fun heq => h (heq ▸ hother)
  rwa [t.get?_set_ne hne]

/-- Where a file was put it is found, and at the end of other trails what was there before. -/
theorem Tree.fileAt?_set (h : t.get? trail ≠ some .directory) (content : ByteArray)
    (other : Trail) : (t.set trail (.file content)).fileAt? other
      = if other = trail then some content else t.fileAt? other := by
  unfold Tree.fileAt?
  split_ifs with heq
  · rw [heq, t.get?_set_self (Tree.ne_nil_of_get? h)]
  · rw [t.get?_set_ne heq]

end

/-! ### Paths -/

/-- Where a path is taken from. -/
def Path.start (cwd : Trail) (p : Path) : Trail :=
  if p.isAbsolute then [] else cwd

/-- The trail at whose end a path has its file. -/
def Tree.target? (t : Tree) (cwd : Trail) (p : Path) : Option Trail :=
  match t.ending cwd p with
  | .ok (.named directory name) => some (directory ++ [name])
  | _ => none

section

variable {t t' : Tree} {cwd start directory : Trail} {p : Path}

/-- Parts are walked one after the other. -/
theorem Tree.walk_append (t : Tree) (start : Trail) (parts rest : List String) :
    t.walk start (parts ++ rest) = (t.walk start parts).bind fun d => t.walk d rest := by
  induction parts generalizing start with
  | nil => rfl
  | cons part parts ih =>
    rw [List.cons_append, Tree.walk, Tree.walk]
    split_ifs
    · exact ih _
    · rfl
    · cases t.get? (start ++ [part]) with
      | none => rfl
      | some e =>
        cases e with
        | file content => rfl
        | directory => exact ih _

/-- A walk leads to the same place while directories are kept. -/
theorem Tree.walk_mono (h : t.KeepsDirectories t') {parts : List String}
    (hwalk : t.walk start parts = .ok directory) : t'.walk start parts = .ok directory := by
  induction parts generalizing start with
  | nil => exact hwalk
  | cons part parts ih =>
    rw [Tree.walk] at hwalk ⊢
    split_ifs at hwalk ⊢
    · exact ih hwalk
    · -- A part that leads to a directory did so before, and directories are kept.
      cases hget : t.get? (start ++ [part]) with
      | none =>
        rw [hget] at hwalk
        cases hwalk
      | some e =>
        cases e with
        | file content =>
          rw [hget] at hwalk
          cases hwalk
        | directory =>
          rw [hget] at hwalk
          rw [h _ hget]
          exact ih hwalk

theorem Tree.ending_eq (t : Tree) (cwd : Trail) (p : Path) : t.ending cwd p =
    if maxPathSize < Text.nameSize p.text then .error .nameTooLong
    else match t.walk (p.start cwd) p.parts.dropLast with
      | .error m => .error m
      | .ok directory =>
        match p.parts.getLast? with
        | none => .ok (.inside directory)
        | some name =>
          if name = ".." then .ok (.inside directory.dropLast)
          else if maxNameSize < Text.nameSize name then .error .nameTooLong
          else .ok (.named directory name) := by
  unfold Tree.ending
  by_cases hlong : maxPathSize < Text.nameSize p.text
  · rw [if_pos hlong, if_pos hlong]
    rfl
  · rw [if_neg hlong, if_neg hlong]
    change (t.walk (p.start cwd) p.parts.dropLast >>= _) = _
    cases t.walk (p.start cwd) p.parts.dropLast with
    | error m => rfl
    | ok directory =>
      cases hlast : p.parts.getLast? with
      | none => rfl
      | some name =>
        by_cases hup : name = ".."
        · subst hup
          rfl
        · -- The two forms tell the same cases apart, the definition by a pattern on the last part.
          have hbind : ∀ f : Trail → Except SystemMistake Ending,
              (Except.ok directory >>= f) = f directory := fun _ => rfl
          rw [hbind]
          dsimp only
          rw [if_neg hup]
          split
          · next h => cases h
          · next h => exact absurd (Option.some.inj h) hup
          · next h =>
            cases h
            split_ifs <;> rfl

/-- A path ends at a name if it leads to a directory before it. -/
theorem Tree.ending_eq_named {name : String} :
    t.ending cwd p = .ok (.named directory name) ↔
      Text.nameSize p.text ≤ maxPathSize ∧ t.walk (p.start cwd) p.parts.dropLast = .ok directory ∧
        p.parts.getLast? = some name ∧ name ≠ ".." ∧ Text.nameSize name ≤ maxNameSize := by
  rw [Tree.ending_eq]
  constructor
  · intro h
    split_ifs at h with hlong
    cases hwalk : t.walk (p.start cwd) p.parts.dropLast with
    | error m =>
      rw [hwalk] at h
      cases h
    | ok d =>
      simp only [hwalk] at h
      cases hlast : p.parts.getLast? with
      | none =>
        rw [hlast] at h
        cases h
      | some n =>
        simp only [hlast] at h
        split_ifs at h with hup hname
        · cases h
        · obtain ⟨rfl, rfl⟩ := Ending.named.inj (Except.ok.inj h)
          exact ⟨Nat.le_of_not_lt hlong, rfl, rfl, hup, Nat.le_of_not_lt hname⟩
  · rintro ⟨hlong, hwalk, hlast, hup, hname⟩
    rw [if_neg (Nat.not_lt.mpr hlong), hwalk, hlast]
    dsimp only
    rw [if_neg hup, if_neg (Nat.not_lt.mpr hname)]

/-- A path that ends at a directory leads there. -/
theorem Tree.walk_of_inside {trail : Trail} (h : t.ending cwd p = .ok (.inside trail)) :
    t.walk (p.start cwd) p.parts = .ok trail := by
  rw [Tree.ending_eq] at h
  split_ifs at h
  cases hwalk : t.walk (p.start cwd) p.parts.dropLast with
  | error m =>
    rw [hwalk] at h
    cases h
  | ok d =>
    simp only [hwalk] at h
    cases hlast : p.parts.getLast? with
    | none =>
      rw [hlast] at h
      cases h
      rw [List.getLast?_eq_none_iff.mp hlast] at hwalk ⊢
      exact hwalk
    | some name =>
      simp only [hlast] at h
      split_ifs at h with hup
      · -- The last part leads up, so the walk ends one directory above the one before it.
        cases h
        obtain ⟨parts, hparts⟩ := List.getLast?_eq_some_iff.mp hlast
        rw [hparts, List.dropLast_concat] at hwalk
        rw [hparts, Tree.walk_append, hwalk, hup]
        rfl
      · cases h

/-- The trail of a file is in the directory that its path leads to before its name. -/
theorem Tree.target?_eq_some {trail : Trail} : t.target? cwd p = some trail ↔
    ∃ directory name, t.ending cwd p = .ok (.named directory name) ∧
      trail = directory ++ [name] := by
  unfold Tree.target?
  constructor
  · intro h
    split at h
    · next hending =>
      cases h
      exact ⟨_, _, hending, rfl⟩
    · cases h
  · rintro ⟨directory, name, hending, rfl⟩
    rw [hending]

/-- A path ends at the same name while directories are kept. -/
theorem Tree.ending_mono (h : t.KeepsDirectories t') {name : String}
    (hending : t.ending cwd p = .ok (.named directory name)) :
    t'.ending cwd p = .ok (.named directory name) := by
  obtain ⟨hlong, hwalk, hrest⟩ := Tree.ending_eq_named.mp hending
  exact Tree.ending_eq_named.mpr ⟨hlong, Tree.walk_mono h hwalk, hrest⟩

/-- A path has its file at the same place while directories are kept. -/
theorem Tree.target?_mono (h : t.KeepsDirectories t') {trail : Trail}
    (htarget : t.target? cwd p = some trail) : t'.target? cwd p = some trail := by
  obtain ⟨directory, name, hending, rfl⟩ := Tree.target?_eq_some.mp htarget
  exact Tree.target?_eq_some.mpr ⟨directory, name, Tree.ending_mono h hending, rfl⟩

/-- What is found at a path that ends at a name is what is there under the name. -/
theorem Tree.find_of_named {name : String} (h : t.ending cwd p = .ok (.named directory name))
    {e : Entry} : t.find cwd p = .ok e ↔ t.get? (directory ++ [name]) = some e := by
  unfold Tree.find
  rw [h]
  dsimp only [bind, Except.bind]
  cases t.get? (directory ++ [name]) with
  | none => exact iff_of_false (by rintro ⟨⟩) (by rintro ⟨⟩)
  | some e => exact (Except.ok.injEq ..).to_iff.trans (Option.some.injEq ..).to_iff.symm

/-- A path that leads to a directory by a name has that directory under the name. -/
theorem Tree.get?_of_walk {name : String} {parts : List String} {outer : Trail}
    (houter : t.walk start parts.dropLast = .ok outer) (hlast : parts.getLast? = some name)
    (hup : name ≠ "..") (hwalk : t.walk start parts = .ok directory) :
    t.get? (outer ++ [name]) = some .directory := by
  obtain ⟨before, rfl⟩ := List.getLast?_eq_some_iff.mp hlast
  rw [List.dropLast_concat] at houter
  rw [Tree.walk_append, houter] at hwalk
  change t.walk outer [name] = _ at hwalk
  rw [Tree.walk, if_neg hup] at hwalk
  split_ifs at hwalk
  cases hget : t.get? (outer ++ [name]) with
  | none =>
    rw [hget] at hwalk
    cases hwalk
  | some e =>
    cases e with
    | directory => rfl
    | file content =>
      rw [hget] at hwalk
      cases hwalk

/-- A path at which a directory is found leads to it. -/
theorem Tree.walk_of_find (h : t.find cwd p = .ok .directory) :
    ∃ directory, t.walk (p.start cwd) p.parts = .ok directory := by
  cases hending : t.ending cwd p with
  | error m =>
    rw [Tree.find, hending] at h
    cases h
  | ok e =>
    cases e with
    | inside trail => exact ⟨trail, Tree.walk_of_inside hending⟩
    | named directory name =>
      have hget := (Tree.find_of_named hending).mp h
      obtain ⟨-, hwalk, hlast, hup, hname⟩ := Tree.ending_eq_named.mp hending
      obtain ⟨parts, hparts⟩ := List.getLast?_eq_some_iff.mp hlast
      rw [hparts, List.dropLast_concat] at hwalk
      refine ⟨directory ++ [name], ?_⟩
      rw [hparts, Tree.walk_append, hwalk]
      change t.walk directory [name] = _
      rw [Tree.walk, if_neg hup, if_neg (Nat.not_lt.mpr hname), hget]
      rfl

theorem Tree.find_of_isDirectory (h : t.isDirectory cwd p = true) :
    t.find cwd p = .ok .directory := by
  unfold Tree.isDirectory at h
  split at h
  · assumption
  · cases h

end

/-! ### Operations -/

section

variable {t t' : Tree} {disk : Disk} {cwd : Trail} {p : Path}

/-- A directory that is made is new, and is found afterwards. -/
theorem Tree.makeDirectory_spec (h : t.makeDirectory cwd p = .ok t') :
    t.Grows t' ∧ t'.find cwd p = .ok .directory := by
  unfold Tree.makeDirectory at h
  cases hending : t.ending cwd p with
  | error m =>
    rw [hending] at h
    cases h
  | ok e =>
    rw [hending] at h
    cases e with
    | inside trail => cases h
    | named directory name =>
      dsimp only [bind, Except.bind] at h
      cases hget : t.get? (directory ++ [name]) with
      | some e =>
        rw [hget] at h
        cases h
      | none =>
        rw [hget] at h
        cases h
        -- Nothing was there, so the directory is added and the path ends as it did.
        have hgrows := Tree.grows_set_directory hget
        have hlater := Tree.ending_mono hgrows.keepsDirectories hending
        exact ⟨hgrows, (Tree.find_of_named hlater).mpr (t.get?_set_self (by simp) _)⟩

/-- What is made on a disk is made as if nothing could stand in the way. -/
theorem Tree.makeDirectory_of_makeOn (h : t.makeOn disk cwd p = .ok t') :
    t.makeDirectory cwd p = .ok t' := by
  unfold Tree.makeOn at h
  split at h
  · cases h
  · next hmake _ =>
    cases h
    exact hmake
  · cases h

/-- A directory that is made sure of is found afterwards. -/
theorem Tree.ensureDirectory_spec (h : t.ensureDirectory disk cwd p = .ok t') :
    t.Grows t' ∧ t'.find cwd p = .ok .directory := by
  unfold Tree.ensureDirectory at h
  cases hmake : t.makeOn disk cwd p with
  | ok t₁ =>
    rw [hmake] at h
    cases h
    exact Tree.makeDirectory_spec (Tree.makeDirectory_of_makeOn hmake)
  | error m =>
    simp only [hmake] at h
    split_ifs at h with hthere
    cases h
    exact ⟨.refl t, Tree.find_of_isDirectory hthere⟩

/-- What making the directories of a path changes, and what the path leads to then. -/
theorem Tree.makeDirectoriesFrom_spec (disk : Disk) (cwd : Trail) (root : String)
    (parts : List String) (t : Tree) : t.Grows (t.makeDirectoriesFrom disk cwd root parts).2 ∧
      ((t.makeDirectoriesFrom disk cwd root parts).1 = .ok () → ∃ directory,
        (t.makeDirectoriesFrom disk cwd root parts).2.walk (Path.start cwd ⟨root, parts.reverse⟩)
          parts.reverse = .ok directory) := by
  induction parts generalizing t with
  | nil => exact ⟨.refl t, fun _ => ⟨_, rfl⟩⟩
  | cons part parts ih =>
    rw [Tree.makeDirectoriesFrom]
    split
    · -- What contains the directory is missing: it is made first, and then the directory.
      have hgrows := (ih t).1
      split
      · next c t₁ houter =>
        rw [houter] at hgrows
        exact ⟨hgrows, fun h => nomatch h⟩
      · next t₁ houter =>
        rw [houter] at hgrows
        split
        · next t₂ hensure =>
          obtain ⟨hlater, hfind⟩ := Tree.ensureDirectory_spec hensure
          exact ⟨hgrows.trans hlater, fun _ => Tree.walk_of_find hfind⟩
        · exact ⟨hgrows, fun h => nomatch h⟩
    · split
      · next t₁ hensure =>
        obtain ⟨hgrows, hfind⟩ := Tree.ensureDirectory_spec hensure
        exact ⟨hgrows, fun _ => Tree.walk_of_find hfind⟩
      · exact ⟨.refl t, fun h => nomatch h⟩

/-- **Making the directories of a path** adds directories, and the path leads to a directory when it
succeeds. -/
theorem Tree.makeDirectoriesOn_spec (t : Tree) (disk : Disk) (cwd : Trail) (p : Path) :
    t.Grows (t.makeDirectoriesOn disk cwd p).2 ∧ ((t.makeDirectoriesOn disk cwd p).1 = .ok () →
      ∃ directory,
        (t.makeDirectoriesOn disk cwd p).2.walk (p.start cwd) p.parts = .ok directory) := by
  unfold Tree.makeDirectoriesOn
  split
  · exact ⟨.refl t, fun h => nomatch h⟩
  · have h := Tree.makeDirectoriesFrom_spec disk cwd p.root p.parts.reverse t
    rwa [List.reverse_reverse] at h

/-- Writing a file changes nothing when it fails, and puts the file at the end of a trail where no
directory is when it succeeds. -/
theorem Tree.write_cases (t : Tree) (cwd : Trail) (p : Path) (content : ByteArray) :
    (∃ c, t.write cwd p content = (.error c, t)) ∨
      ∃ trail, t.target? cwd p = some trail ∧ t.get? trail ≠ some .directory ∧
        t.write cwd p content = (.ok (), t.set trail (.file content)) := by
  unfold Tree.write
  split
  · exact Or.inl ⟨_, rfl⟩
  · -- Only an end by a name, where there is no directory yet, can become a file.
    cases hending : t.ending cwd p with
    | error m => exact Or.inl ⟨_, rfl⟩
    | ok e =>
      cases e with
      | inside trail => exact Or.inl ⟨_, rfl⟩
      | named directory name =>
        have htarget : t.target? cwd p = some (directory ++ [name]) :=
          Tree.target?_eq_some.mpr ⟨directory, name, hending, rfl⟩
        dsimp only
        cases hget : t.get? (directory ++ [name]) with
        | none => exact Or.inr ⟨_, htarget, by simp [hget], rfl⟩
        | some e =>
          cases e with
          | directory => exact Or.inl ⟨_, rfl⟩
          | file old => exact Or.inr ⟨_, htarget, by simp [hget], rfl⟩

/-- A text that can be encoded is kept as its octets are. -/
theorem Disk.keep_of_encodes {text : String} (disk : Disk) (p : Path)
    (h : Text.EncodingFault.inUtf8? text.toList = none) :
    disk.keep p text = disk.fill p (Text.utf8 text) := by
  rw [Disk.keep, h]

/-- A disk keeps a text, or the beginning of it. -/
theorem Disk.keep_cases (disk : Disk) (p : Path) (text : String) :
    disk.keep p text = (Text.utf8 text, .ok ()) ∨
      ∃ count c, disk.keep p text = ((Text.utf8 text).extract 0 count, .error c) := by
  unfold Disk.keep
  split
  · next f _ => exact Or.inr ⟨0, .noText (.header f), by rw [ByteArray.extract_same]⟩
  · unfold Disk.fill
    split
    · next count reason _ => exact Or.inr ⟨count, .other reason, rfl⟩
    · exact Or.inl rfl

/-- **Writing a file anew** changes nothing where the file is not opened, and leaves what the disk
keeps at the end of a trail, where no directory is, when it is. -/
theorem Tree.overwrite_cases (t : Tree) (disk : Disk) (cwd : Trail) (p : Path)
    (kept : ByteArray × Except Cause Unit) :
    (∃ c, t.overwrite disk cwd p kept = (.error c, t)) ∨
      ∃ trail, t.target? cwd p = some trail ∧ t.get? trail ≠ some .directory ∧
        t.overwrite disk cwd p kept = (kept.2, t.set trail (.file kept.1)) := by
  unfold Tree.overwrite
  rcases Tree.write_cases t cwd p kept.1 with
    ⟨c, hwrite⟩ | ⟨trail, htarget, hfree, hwrite⟩
  · exact Or.inl ⟨c, by rw [hwrite]⟩
  · rw [hwrite]
    cases hopening : disk.opening p with
    | some reason => exact Or.inl ⟨.other reason, rfl⟩
    | none => exact Or.inr ⟨trail, htarget, hfree, rfl⟩

end

end ServerActions.Files
