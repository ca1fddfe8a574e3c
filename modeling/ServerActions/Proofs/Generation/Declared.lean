import ServerActions.Proofs.Description.Declared
import ServerActions.Proofs.Generation.Generate

/-!
# One unit for each operation declared

The units of a description are those of the operations that it declares on the paths chosen, in
their order.  Each is the unit that its operation has on its own, whichever paths are chosen and
whatever else was compiled.

## Main definitions

* `Passes` — some pattern to include matches a path, or there are none, and no pattern to exclude
  matches it.
* `Site`, `sites` — where an operation is declared, and all these places on the paths that pass.
* `SameButPaths` — settings that differ in the paths chosen only.
* `BuiltAt` — a unit is the one of the operation at a place.

## Main results

* `units_declared` — **there is one unit for each operation declared**, in the order of declaration.
-/

namespace ServerActions.Generation

open Description (Document PathItem Operation OrReference methodsIn givenFor? pathEntries)
open Reference (Run Session)

/-! ### Paths that pass -/

/-- Some pattern to include matches a path, or there are none, and no pattern to exclude does. -/
def Passes (s : DocumentSettings) (path : String) : Prop :=
  (s.includePaths.getD [] = [] ∨ ∃ pattern ∈ s.includePaths.getD [], fits path pattern) ∧
    ∀ pattern ∈ s.excludePaths.getD [], ¬ fits path pattern

instance (s : DocumentSettings) (path : String) : Decidable (Passes s path) :=
  inferInstanceAs (Decidable ((_ ∨ _) ∧ _))

/-- The paths that pass are those chosen. -/
theorem isIncluded_eq (s : DocumentSettings) (path : String) :
    isIncluded s path = decide (Passes s path) := by
  rw [Bool.eq_iff_iff, decide_eq_true_iff, isIncluded, Passes]
  simp [List.isEmpty_iff]

/-! ### Places of operations -/

/-- Where an operation is declared: the path with the entries given for it, and the method. -/
structure Site where
  path : String
  method : String
  entries : Fields

/-- The places where operations are declared on the paths that pass, in their order. -/
def sites (root : Fields) (s : DocumentSettings) : List Site :=
  ((pathEntries root).filter fun p => Passes s p.1).flatMap fun p =>
    (methodsIn p.2).map fun method => ⟨p.1, method, p.2⟩

/-- The operation that is compiled is the one declared at a place. -/
structure ReadAt (site : Site) (d : Declared) : Prop where
  path : d.path = site.path
  method : d.method = site.method
  item : PathItem.model.ofFields site.entries = .valid d.item
  operation : ∃ v, givenFor? site.entries site.method = some v ∧
    Operation.model.read v = .valid d.operation

/-- The operations that are compiled are those declared on the paths chosen. -/
theorem forall₂_readAt {root : Fields} {doc : Document}
    (h : Document.model.ofFields root = .valid doc) (s : DocumentSettings) :
    List.Forall₂ ReadAt (sites root s) (chosen doc s) := by
  obtain ⟨contents, hcontents, rfl⟩ := Checked.map_eq_valid.mp h
  have hpaths := Description.read_paths hcontents
  have hchosen := List.rel_filter (p := fun p => isIncluded s p.1) (q := fun p => isIncluded s p.1)
    (fun _ _ hpq => iff_of_eq (congrArg (isIncluded s · = true) hpq.1)) hpaths
  simp only [isIncluded_eq] at hchosen
  unfold sites chosen
  simp only [isIncluded_eq]
  refine List.rel_flatMap hchosen fun p q hpq => ?_
  obtain ⟨hpath, hitem⟩ := hpq
  rw [List.forall₂_map_left_iff, List.forall₂_map_right_iff]
  refine (Description.read_operations hitem).imp fun method o ho => ?_
  obtain ⟨hmethod, hgiven⟩ := ho
  exact ⟨hpath.symm, hmethod.symm, hitem, hgiven⟩

/-! ### Units of their own -/

section

variable {g : Generator} {load : Loader} {doc : Document} {s : DocumentSettings}

/-- The settings differ in the paths chosen only. -/
def SameButPaths (s s' : DocumentSettings) : Prop :=
  ∃ included excluded, s' = { s with includePaths := included, excludePaths := excluded }

/-- The unit is the one that every generator with the description makes of the operation, whatever
it did before and whichever paths its settings choose. -/
def CompilesAlone (doc : Document) (s : DocumentSettings) (path method : String) (o : Operation)
    (pathParameters : Option (List (OrReference Description.Parameter))) (u : Action.Unit) : Prop :=
  ∀ (g : Generator) (load : Loader), g.Opens load doc → SameButPaths s g.settings →
    (g.compile load path method o pathParameters).result = .ok u

theorem compilesAlone_of_compiles {d : Declared} {u : Action.Unit} (h : Compiles doc s d u) :
    CompilesAlone doc s d.path d.method d.operation d.item.parameters u := by
  rintro g load hopens ⟨included, excluded, hsettings⟩
  obtain ⟨session, hquiet, hrun⟩ := hopens.withDocument fun doc =>
    compile doc g.settings d.path d.method d.operation d.item.parameters
  -- The session that the generator has reached finds what a fresh one finds.
  obtain ⟨hresult, -⟩ := (steady_compile (s := s) d.path d.method d.operation
    d.item.parameters).keeps (quiet_fresh doc.raw) session hquiet
  rw [h] at hresult
  rw [Generator.compile, hrun, hsettings]
  exact hresult

/-- The unit is the one of the operation at a place. -/
structure BuiltAt (doc : Document) (s : DocumentSettings) (site : Site) (u : Action.Unit) :
    Prop where
  path : u.path = site.path
  method : u.method = site.method
  /-- The operation is read from what is given last for its method, and the unit is made of it and
  of the parameters of its path. -/
  alone : ∃ item v o, PathItem.model.ofFields site.entries = .valid item ∧
    givenFor? site.entries site.method = some v ∧ Operation.model.read v = .valid o ∧
    CompilesAlone doc s site.path site.method o item.parameters u

theorem builtAt_of_compiles {site : Site} {d : Declared} {u : Action.Unit} (hread : ReadAt site d)
    (h : Compiles doc s d u) : BuiltAt doc s site u := by
  obtain ⟨_, _, _, _, -, -, hu⟩ := build_of_compile h
  obtain ⟨v, hgiven, hv⟩ := hread.operation
  refine ⟨hu ▸ hread.path, hu ▸ hread.method, d.item, v, d.operation, hread.item, hgiven, hv, ?_⟩
  have halone := compilesAlone_of_compiles h
  rwa [hread.path, hread.method] at halone

end

/-! ### All units -/

/-- Lists that both stand one for one to a list between them stand so to each other. -/
theorem forall₂_trans {α β γ : Type} {R : α → β → Prop} {S : β → γ → Prop} {T : α → γ → Prop}
    (h : ∀ a b c, R a b → S b c → T a c) {as : List α} {bs : List β} {cs : List γ}
    (hR : List.Forall₂ R as bs) (hS : List.Forall₂ S bs cs) : List.Forall₂ T as cs := by
  induction hR generalizing cs with
  | nil =>
    cases hS
    exact .nil
  | cons hab _ ih =>
    obtain _ | ⟨hbc, hS⟩ := hS
    exact .cons (h _ _ _ hab hbc) (ih hS)

section

variable {g : Generator} {load : Loader} {doc : Document} {us : List Action.Unit}

/-- The generator after a description was taken into use, if one is given. -/
def Generator.taking (g : Generator) : Option Document → Generator
  | some doc => g.use doc
  | none => g

theorem Generator.units_eq (g : Generator) (load : Loader) (given : Option Document) :
    g.units load given
      = (g.taking given).withDocument load fun doc => Generation.units doc g.settings := by
  cases given <;> rfl

/-- Where there are units of a description, each operation chosen has its unit. -/
theorem Generator.Opens.forall₂_of_units {given : Option Document}
    (hopens : (g.taking given).Opens load doc) (h : (g.units load given).result = .ok us) :
    List.Forall₂ (Compiles doc g.settings) (chosen doc g.settings) us := by
  obtain ⟨session, hquiet, hrun⟩ := hopens.withDocument fun doc => Generation.units doc g.settings
  rw [g.units_eq load given, hrun] at h
  obtain ⟨us', _, hus, h⟩ := Run.bind_eq_ok h
  obtain ⟨_, _, -, h⟩ := Run.bind_eq_ok h
  cases h
  exact forall₂_of_compileAll hquiet (by rw [hus])

/-- **There is one unit for each operation that a description declares** on the paths that some
pattern to include matches, if there are any, and no pattern to exclude; the units are in the order
of declaration, and each is the unit that the operation has on its own. -/
theorem units_declared (root : Fields) (doc : Document)
    (hread : Document.model.ofFields root = .valid doc) (g : Generator) (load : Loader)
    (given : Option Document) (hopens : (g.taking given).Opens load doc) (us : List Action.Unit)
    (hus : (g.units load given).result = .ok us) :
    us.map (fun u => (u.path, u.method))
        = ((pathEntries root).filter fun p =>
            (g.settings.includePaths.getD [] = [] ∨
              ∃ pattern ∈ g.settings.includePaths.getD [],
                Text.Glob.accepts pattern.toList p.1.toList) ∧
            ∀ pattern ∈ g.settings.excludePaths.getD [],
              ¬ Text.Glob.accepts pattern.toList p.1.toList).flatMap
          (fun p => (methodsIn p.2).map fun method => (p.1, method)) ∧
      List.Forall₂ (BuiltAt doc g.settings) (sites root g.settings) us := by
  have hcompiled := hopens.forall₂_of_units hus
  have hbuilt : List.Forall₂ (BuiltAt doc g.settings) (sites root g.settings) us := by
    refine forall₂_trans (fun site d u hsite hu => ?_) (forall₂_readAt hread g.settings) hcompiled
    exact builtAt_of_compiles hsite hu
  refine ⟨?_, hbuilt⟩
  have hpairs : us.map (fun u => (u.path, u.method))
      = (sites root g.settings).map fun site => (site.path, site.method) := by
    refine (congrFun₂ List.forall₂_eq_eq_eq _ _).mp ?_
    rw [List.forall₂_map_left_iff, List.forall₂_map_right_iff]
    exact hbuilt.flip.imp fun u site h => Prod.ext h.path h.method
  rw [hpairs, sites, List.map_flatMap]
  simp only [List.map_map, Function.comp_def]
  exact congrArg _ (List.filter_congr fun p _ => decide_eq_decide.mpr Iff.rfl)

end

/-! ### Two spellings of one method -/

/-- A path with two spellings of a method, one that is not chosen, an entry that is no path, and a
path with parameters of its own. -/
def twice : Fields :=
  let operation (id : String) : Value := .map [(.str "operationId", .str id)]
  [(.str "paths", .map
    [(.str "/pets", .map [(.str "Get", operation "first"), (.str "post", operation "add"),
      (.str "get", operation "later")]),
     (.str "/internal/pets", .map [(.str "get", operation "hidden")]),
     (.str "x-note", .str "no path"),
     (.str "/cats", .map [(.str "parameters", .list
        [.map [(.str "name", .str "limit"), (.str "in", .str "query")]]),
      (.str "DELETE", .map [])])])]

/-- The description as it is read. -/
def twiceDocument : Document where
  contents := ⟨none, none, none,
    [("/pets", ⟨none, none, none, [("get", named "later"), ("post", named "add")], []⟩),
     ("/internal/pets", ⟨none, none, none, [("get", named "hidden")], []⟩),
     ("/cats", ⟨none, none, some [.object ⟨"limit", .query, none, false, false, none, []⟩],
       [("delete", ⟨none, none, none, none, none, none, [], false, []⟩)], []⟩)], none, []⟩
  raw := twice

/-- The units on the paths that are not internal. -/
def twiceUnits : List Action.Unit :=
  let root := Action.environmentRoot "API_URL"
  [.build "later" "get" "/pets" .any root [] none [],
   .build "add" "post" "/pets" .any root [] none [],
   .build "deleteCats" "delete" "/cats" .any root [⟨"limit", .query, false, .any, none⟩] none []]

/-- A generator for it. -/
def twiceGenerator : Generator :=
  .new { DocumentSettings.ofSource "api.yaml" "out" with excludePaths := some ["/internal/*"] }

/-- The method that is spelt twice comes first and has what is given later. -/
theorem units_declared_twice :
    let load : Loader := fun _ => .ok twiceDocument
    Document.model.ofFields twice = .valid twiceDocument ∧
      (twiceGenerator.taking none).Opens load twiceDocument ∧
      (twiceGenerator.units load none).result = .ok twiceUnits ∧
      twiceUnits.map (fun u => (u.path, u.method))
        = [("/pets", "get"), ("/pets", "post"), ("/cats", "delete")] ∧
      List.Forall₂ (BuiltAt twiceDocument twiceGenerator.settings)
        (sites twice twiceGenerator.settings) twiceUnits := by
  intro load
  have hopens : (twiceGenerator.taking none).Opens load twiceDocument := .loaded rfl rfl
  have hunits : (twiceGenerator.units load none).result = .ok twiceUnits := rfl
  obtain ⟨hpairs, hbuilt⟩ :=
    units_declared twice twiceDocument rfl twiceGenerator load none hopens twiceUnits hunits
  exact ⟨rfl, hopens, hunits, hpairs, hbuilt⟩

end ServerActions.Generation
