import ServerActions.Generation.Document
import ServerActions.Output.Emitter

/-!
# Generators

A generator holds the settings of a description and the description that is in use, with the schemas
already found in it.

## Main definitions

* `Generator`, `Outcome` — a generator, and what comes of one of its operations.
* `Generator.use`, `Generator.compile`, `Generator.units`, `Generator.generate` — taking a
  description into use, the unit of one operation, all units, and all modules put where they belong.
-/

namespace ServerActions.Generation

open Description (Document OrReference Operation)
open Reference (Memo Run Session)
open Output (Emitter)

/-- The settings, the description in use and the schemas found in it. -/
structure Generator where
  settings : DocumentSettings
  document : Option Document
  memo : Memo

/-- The generator without a description. -/
def Generator.new (s : DocumentSettings) : Generator := ⟨s, none, []⟩

/-- The generator that uses a description. -/
def Generator.use (g : Generator) (doc : Document) : Generator :=
  { g with document := some doc, memo := [] }

/-- What comes of an operation of a generator. -/
structure Outcome (α : Type) where
  result : Except Failure α
  generator : Generator
  notices : List Notice

/-- How a description is found from its source. -/
abbrev Loader := String → Except Failure Document

variable {α : Type}

/-- A computation on a description in use. -/
def Generator.run (g : Generator) (doc : Document) (r : Run α) : Outcome α :=
  let (result, session) := r ⟨g.memo, []⟩
  ⟨result, { g with document := some doc, memo := session.memo }, session.notices⟩

/-- A computation on the description in use, which is loaded if there is none. -/
def Generator.withDocument (g : Generator) (load : Loader) (r : Document → Run α) : Outcome α :=
  match g.document with
  | some doc => g.run doc (r doc)
  | none =>
    match load g.settings.source with
    | .ok doc => (g.use doc).run doc (r doc)
    | .error e => ⟨.error e, g, []⟩

/-- The unit of an operation. -/
def Generator.compile (g : Generator) (load : Loader) (path method : String) (o : Operation)
    (pathParameters : Option (List (OrReference Description.Parameter))) : Outcome Action.Unit :=
  g.withDocument load fun doc => Generation.compile doc g.settings path method o pathParameters

/-- The units of a description given, or of the one in use. -/
def Generator.units (g : Generator) (load : Loader) (given : Option Document) :
    Outcome (List Action.Unit) :=
  let g := match given with
    | some doc => g.use doc
    | none => g
  g.withDocument load fun doc => Generation.units doc g.settings

/-- The remark on a description without operations. -/
def emptyNotice (s : DocumentSettings) : Notice :=
  ⟨.warning, .operations, s.source ++ " declares no operations"⟩

/-- The modules of the description in use, put where they belong; the result is their locations. -/
def Generator.generate {σ : Type} (g : Generator) (load : Loader) (emit : Emitter σ) (store : σ) :
    Outcome (List String) × σ :=
  let compiled := g.units load none
  match compiled.result with
  | .error e => (⟨.error e, compiled.generator, compiled.notices⟩, store)
  | .ok us =>
    let emission := Output.emitAll emit store (us.map fun u => (u.name, u.source))
    let notices := compiled.notices ++ (if us.isEmpty then [emptyNotice g.settings] else [])
    (⟨emission.outcome, compiled.generator, notices ++ emission.notices⟩, emission.store)

end ServerActions.Generation
