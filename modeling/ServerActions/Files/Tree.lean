import ServerActions.Failure.Cause
import ServerActions.Files.Path

/-!
# File trees

Files and directories by the names that lead to them from the root, and what can be done with them:
looking up a path, reading a file, making directories and writing a file.  Beside the names, what
the files are on may stand in the way: it may be full, or not let itself be written to.

## Main definitions

* `Entry`, `Tree` — a file or a directory, and all of them.
* `Trail`, `Tree.walk`, `Tree.find` — the names from the root to an entry, and the way to it.
* `Disk` — what keeps directories from being made and files from being written.
* `Tree.read`, `Tree.makeDirectoriesOn`, `Tree.write`, `Disk.keep`, `Tree.overwrite` — the
  operations on files.
-/

namespace ServerActions.Files

/-- A file with its octets, or a directory. -/
inductive Entry
  | file (content : ByteArray)
  | directory

/-- Whether two entries are the same. -/
def Entry.same : Entry → Entry → Bool
  | .file a, .file b => a.toList == b.toList
  | .directory, .directory => true
  | _, _ => false

/-- The names that lead from the root to an entry. -/
abbrev Trail := List String

/-- The entries other than the root, each under its trail. -/
structure Tree where
  entries : List (Trail × Entry)

/-- The entry at the end of a trail; the root is a directory. -/
def Tree.get? (t : Tree) (trail : Trail) : Option Entry :=
  if trail.isEmpty then some .directory else t.entries.lookup trail

/-- The entries with `e` at the end of a trail: instead of the one there, or at the end. -/
def put (trail : Trail) (e : Entry) : List (Trail × Entry) → List (Trail × Entry)
  | [] => [(trail, e)]
  | (p, old) :: rest => if p = trail then (p, e) :: rest else (p, old) :: put trail e rest

/-- The tree with an entry at the end of a trail. -/
def Tree.set (t : Tree) (trail : Trail) (e : Entry) : Tree :=
  ⟨put trail e t.entries⟩

/-- What was put at the end of a trail is found there. -/
theorem Tree.get?_set_self (t : Tree) {trail : Trail} (h : trail ≠ []) (e : Entry) :
    (t.set trail e).get? trail = some e := by
  have : (put trail e t.entries).lookup trail = some e := by
    induction t.entries with
    | nil => simp [put]
    | cons x xs ih =>
      obtain ⟨p, old⟩ := x
      by_cases hp : p = trail
      · simp [put, hp]
      · have : (trail == p) = false := by simpa using fun e => hp e.symm
        simp [put, hp, List.lookup_cons, this, ih]
  simp [Tree.get?, Tree.set, h, this]

/-- What is at the end of another trail stays there. -/
theorem Tree.get?_set_ne (t : Tree) {trail other : Trail} (h : other ≠ trail) (e : Entry) :
    (t.set trail e).get? other = t.get? other := by
  have : (put trail e t.entries).lookup other = t.entries.lookup other := by
    induction t.entries with
    | nil =>
      have : (other == trail) = false := by simpa using h
      simp [put, List.lookup_cons, this]
    | cons x xs ih =>
      obtain ⟨p, old⟩ := x
      by_cases hp : p = trail
      · have : (other == p) = false := by simpa [hp] using h
        simp [put, hp, List.lookup_cons, hp ▸ this]
      · simp only [put, hp, if_false, List.lookup_cons]
        split <;> simp_all
  simp [Tree.get?, Tree.set, this]

/-- The entries that are not as they were in another tree. -/
def Tree.changesSince (t old : Tree) : List (Trail × Entry) :=
  t.entries.filter fun e => !((old.get? e.1).map e.2.same).getD false

/-! ### Ways -/

/-- The octets that a name may have. -/
def maxNameSize : Nat := 255

/-- The octets that a path may have. -/
def maxPathSize : Nat := 4095

/-- The trail that parts lead to from a directory.  All of them have to be directories. -/
def Tree.walk (t : Tree) (start : Trail) : List String → Except SystemMistake Trail
  | [] => .ok start
  | part :: rest =>
    if part = ".." then Tree.walk t start.dropLast rest
    else if maxNameSize < Text.nameSize part then .error .nameTooLong
    else match t.get? (start ++ [part]) with
      | some .directory => Tree.walk t (start ++ [part]) rest
      | some (.file _) => .error .notDirectory
      | none => .error .notFound

/-- Where a path ends: at a directory that its parts lead back to, or at a name in a directory. -/
inductive Ending
  | inside (trail : Trail)
  | named (directory : Trail) (name : String)

/-- Where a path ends when it is taken from a directory. -/
def Tree.ending (t : Tree) (cwd : Trail) (p : Path) : Except SystemMistake Ending := do
  if maxPathSize < Text.nameSize p.text then throw .nameTooLong
  let start := if p.isAbsolute then [] else cwd
  let directory ← t.walk start p.parts.dropLast
  match p.parts.getLast? with
  | none => return .inside directory
  | some ".." => return .inside directory.dropLast
  | some name =>
    if maxNameSize < Text.nameSize name then throw .nameTooLong
    return .named directory name

/-- The entry that a path leads to. -/
def Tree.find (t : Tree) (cwd : Trail) (p : Path) : Except SystemMistake Entry := do
  match ← t.ending cwd p with
  | .inside _ => return .directory
  | .named directory name =>
    match t.get? (directory ++ [name]) with
    | some e => return e
    | none => throw .notFound

/-- Whether a path leads to a directory. -/
def Tree.isDirectory (t : Tree) (cwd : Trail) (p : Path) : Bool :=
  match t.find cwd p with
  | .ok .directory => true
  | _ => false

/-! ### Operations -/

/-- Why no path can be asked for by a text: it has no octets, or holds the character that ends
paths. -/
def Path.fault? (p : Path) : Option Cause :=
  match Text.EncodingFault.inName? p.text.toList with
  | some f => some (.noText (.header f))
  | none => if p.text.toList.contains '\x00' then some .nullInPath else none

/-- A refusal that is about a path. -/
def refusal (p : Path) (m : SystemMistake) : Cause :=
  .system ⟨m, p.text⟩

/-- The octets of the file at a path. -/
def Tree.read (t : Tree) (cwd : Trail) (p : Path) : Except Cause ByteArray :=
  match p.fault? with
  | some c => .error c
  | none =>
    match t.find cwd p with
    | .ok (.file content) => .ok content
    | .ok .directory => .error (refusal p .isDirectory)
    | .error m => .error (refusal p m)

/-- The tree with a new directory at a path. -/
def Tree.makeDirectory (t : Tree) (cwd : Trail) (p : Path) : Except SystemMistake Tree := do
  match ← t.ending cwd p with
  | .inside _ => throw .alreadyThere
  | .named directory name =>
    match t.get? (directory ++ [name]) with
    | some _ => throw .alreadyThere
    | none => return t.set (directory ++ [name]) .directory

/-- What keeps directories from being made and files from being written though their paths allow
it. -/
structure Disk where
  /-- Why no directory can be made at a path. -/
  making : Path → Option String
  /-- Why no file can be opened at a path. -/
  opening : Path → Option String
  /-- How many octets of a content fit into a file, and why no more do. -/
  filling : Path → ByteArray → Option (Nat × String)

/-- Nothing stands in the way. -/
def Disk.sound : Disk := ⟨fun _ => none, fun _ => none, fun _ _ => none⟩

/-- A directory is made on a disk, or it is said why not. -/
def Tree.makeOn (t : Tree) (disk : Disk) (cwd : Trail) (p : Path) :
    Except (SystemMistake ⊕ String) Tree :=
  match t.makeDirectory cwd p, disk.making p with
  | .ok _, some reason => .error (.inr reason)
  | .ok t, none => .ok t
  | .error m, _ => .error (.inl m)

/-- The new directory at a path, which may be there already, as long as what contains it is
there. -/
def Tree.ensureDirectory (t : Tree) (disk : Disk) (cwd : Trail) (p : Path) : Except Cause Tree :=
  match t.makeOn disk cwd p with
  | .ok t => .ok t
  | .error e => if t.isDirectory cwd p then .ok t else .error (e.elim (refusal p) .other)

/-- The directories that a path needs, the last part first in `parts`: where what contains a
directory is missing, that is made first.  What was made before a refusal stays. -/
def Tree.makeDirectoriesFrom (t : Tree) (disk : Disk) (cwd : Trail) (root : String) :
    List String → Except Cause Unit × Tree
  | [] => (.ok (), t)
  | part :: parts =>
    let p : Path := ⟨root, (part :: parts).reverse⟩
    match t.makeDirectory cwd p with
    | .error .notFound =>
      match Tree.makeDirectoriesFrom t disk cwd root parts with
      | (.error c, t) => (.error c, t)
      | (.ok _, t) =>
        match t.ensureDirectory disk cwd p with
        | .ok t => (.ok (), t)
        | .error c => (.error c, t)
    | _ =>
      match t.ensureDirectory disk cwd p with
      | .ok t => (.ok (), t)
      | .error c => (.error c, t)

/-- The directories that a path needs are made on a disk. -/
def Tree.makeDirectoriesOn (t : Tree) (disk : Disk) (cwd : Trail) (p : Path) :
    Except Cause Unit × Tree :=
  match p.fault? with
  | some c => (.error c, t)
  | none => t.makeDirectoriesFrom disk cwd p.root p.parts.reverse

/-- The directories that a path needs are made on a sound disk. -/
def Tree.makeDirectories (t : Tree) : (cwd : Trail) → (p : Path) → Except Cause Unit × Tree :=
  t.makeDirectoriesOn .sound

/-- The file at a path is written anew. -/
def Tree.write (t : Tree) (cwd : Trail) (p : Path) (content : ByteArray) :
    Except Cause Unit × Tree :=
  match p.fault? with
  | some c => (.error c, t)
  | none =>
    match t.ending cwd p with
    | .error m => (.error (refusal p m), t)
    | .ok (.inside _) => (.error (refusal p .isDirectory), t)
    | .ok (.named directory name) =>
      match t.get? (directory ++ [name]) with
      | some .directory => (.error (refusal p .isDirectory), t)
      | _ => (.ok (), t.set (directory ++ [name]) (.file content))

/-- The octets that are left of a content in a file at a path, and why they are not all. -/
def Disk.fill (disk : Disk) (p : Path) (content : ByteArray) : ByteArray × Except Cause Unit :=
  match disk.filling p content with
  | some (count, reason) => (content.extract 0 count, .error (.other reason))
  | none => (content, .ok ())

/-- The octets that are left of a text in a file at a path, and why they are not all.  A text is
encoded only when the file is open and empty, and is not begun if it cannot be. -/
def Disk.keep (disk : Disk) (p : Path) (text : String) : ByteArray × Except Cause Unit :=
  match Text.EncodingFault.inUtf8? text.toList with
  | some f => (.empty, .error (.noText (.header f)))
  | none => disk.fill p (Text.utf8 text)

/-- The file at a path is written anew with what a disk keeps.  What was in it is gone as soon as it
is opened. -/
def Tree.overwrite (t : Tree) (disk : Disk) (cwd : Trail) (p : Path)
    (kept : ByteArray × Except Cause Unit) : Except Cause Unit × Tree :=
  match t.write cwd p kept.1 with
  | (.error c, t) => (.error c, t)
  | (.ok _, opened) =>
    match disk.opening p with
    | some reason => (.error (.other reason), t)
    | none => (kept.2, opened)

end ServerActions.Files
