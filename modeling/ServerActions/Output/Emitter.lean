import ServerActions.Failure.Basic
import ServerActions.Files.Tree
import ServerActions.Notice

/-!
# Where modules are put

A finished module is put somewhere under the name of its operation: kept in memory, or written
into a directory.

## Main definitions

* `Emission`, `Emitter` — what comes of putting a module somewhere, and a way to do so.
* `Modules`, `inMemory` — modules kept under their file names.
* `Directory`, `inDirectoryOn`, `inDirectory` — modules written into a directory of a file tree, on
  a disk that may refuse them and on a sound one.
* `emitAll` — several modules, one after the other, up to the first that cannot be put.
-/

namespace ServerActions.Output

/-- What comes of putting a module somewhere: its location, what holds the modules from now on, and
remarks. -/
structure Emission (σ α : Type) where
  outcome : Except Failure α
  store : σ
  notices : List Notice

/-- A way to put a module somewhere under a name. -/
abbrev Emitter (σ : Type) := σ → (name source : String) → Emission σ String

/-- Several modules with their names, one after the other.  After a failure no more are put. -/
def emitAll {σ : Type} (emit : Emitter σ) (store : σ) :
    List (String × String) → Emission σ (List String)
  | [] => ⟨.ok [], store, []⟩
  | (name, source) :: rest =>
    let first := emit store name source
    match first.outcome with
    | .error e => ⟨.error e, first.store, first.notices⟩
    | .ok location =>
      let others := emitAll emit first.store rest
      ⟨others.outcome.map (location :: ·), others.store, first.notices ++ others.notices⟩

/-! ### In memory -/

/-- Modules under their file names, in the order in which the names came first. -/
structure Modules where
  extension : String
  entries : List (String × String)
  deriving DecidableEq, Repr

/-- The file name for a name. -/
def Modules.fileName (m : Modules) (name : String) : String :=
  name ++ m.extension

/-- The entries with a source under a file name: instead of the one there, or at the end. -/
def putModule (file source : String) : List (String × String) → List (String × String)
  | [] => [(file, source)]
  | (f, old) :: rest =>
    if f = file then (f, source) :: rest else (f, old) :: putModule file source rest

/-- The source under a file name. -/
def Modules.get? (m : Modules) (file : String) : Option String :=
  m.entries.lookup file

/-- No modules. -/
def Modules.clear (m : Modules) : Modules :=
  { m with entries := [] }

/-- A module is kept under its file name. -/
def inMemory : Emitter Modules := fun m name source =>
  ⟨.ok (m.fileName name), { m with entries := putModule (m.fileName name) source m.entries }, []⟩

/-! ### In a directory -/

/-- A directory into which modules are written, and what was written so far. -/
structure Directory where
  path : Files.Path
  extension : String
  written : List String
  /-- The files there are. -/
  tree : Files.Tree
  /-- The place from which paths are taken. -/
  cwd : Files.Trail

/-- The file name for a name. -/
def Directory.fileName (d : Directory) (name : String) : String :=
  name ++ d.extension

/-- The path of the module of a name. -/
def Directory.location (d : Directory) (name : String) : Files.Path :=
  d.path.join (Files.Path.ofText (d.fileName name))

/-- The failure to write at a path.  What is no refusal of the file system stays what it is. -/
def writeFailure (p : Files.Path) (c : Cause) : Failure :=
  match c with
  | .system _ | .other _ => .output p.text (some c)
  | _ => .bare c

/-- A module of which a disk keeps something is put into the directory, which is made if it is not
there. -/
def Directory.put (d : Directory) (disk : Files.Disk) (p : Files.Path)
    (kept : ByteArray × Except Cause Unit) : Emission Directory String :=
  match d.tree.makeDirectoriesOn disk d.cwd d.path with
  | (.error c, tree) => ⟨.error (writeFailure p c), { d with tree := tree }, []⟩
  | (.ok _, tree) =>
    match tree.overwrite disk d.cwd p kept with
    | (.error c, tree) => ⟨.error (writeFailure p c), { d with tree := tree }, []⟩
    | (.ok _, tree) =>
      ⟨.ok p.text, { d with tree := tree, written := d.written ++ [p.text] },
        [⟨.info, .files, "Wrote " ++ p.text⟩]⟩

/-- A module is written into the directory.  What the disk refuses may depend on all that was
written before. -/
def inDirectoryOn (disk : Directory → Files.Disk) : Emitter Directory := fun d name source =>
  d.put (disk d) (d.location name) ((disk d).keep (d.location name) source)

/-- A module is written into the directory, on a sound disk. -/
def inDirectory : Emitter Directory :=
  inDirectoryOn fun _ => .sound

end ServerActions.Output
