import ServerActions.Generation.Operation
import ServerActions.Proofs.Description.Document
import ServerActions.Proofs.Generation.Compilation
import ServerActions.Proofs.TypeScript.OperationName

/-!
# The names of a function

A function has its own name and those of its parameters; in its body there are local names and
names of the environment.  A name that is made from a method and a path can be declared and is none
of the environment's.  The name that an operation declares is taken as it is, in camel case.  The
names under which path parameters are declared are distinct; they clash with one of the other names
if and only if the own name of a path parameter is made into that name.

## Main definitions

* `Declaration`, `declarations` — the parameters of a function, each with the names it declares.
* `fixedNames`, `localNames`, `globalNames` — the names of the query and the body, those that the
  body of a function declares, and those of the environment on which it relies.
* `NamedWell` — what holds of the names of the function of an operation.

## Main results

* `signature_eq` — the parameter list is the text of the declarations.
* `namedWell_of_compile` — what holds of the names of every function that is made.
-/

namespace ServerActions.Action

open TypeScript

/-! ### Parameters -/

/-- How a parameter is declared: its properties are taken out of it under names, or it has a name as
a whole. -/
inductive Pattern
  | taken (properties : List (String × String))
  | whole (name : String)

/-- The names that are declared. -/
def Pattern.names : Pattern → List String
  | .taken properties => properties.map Prod.snd
  | .whole name => [name]

/-- The pattern as it is written. -/
def Pattern.text : Pattern → String
  | .taken properties =>
    "\x7b " ++ ", ".intercalate (properties.map fun p => bindingPattern p.1 p.2) ++ " \x7d"
  | .whole name => name

/-- A parameter of a function. -/
structure Declaration where
  pattern : Pattern
  type : TypeExpr

/-- The parameter as it is written. -/
def Declaration.text (d : Declaration) : String :=
  d.pattern.text ++ ": " ++ d.type.text

/-- The parameters of the function of an operation. -/
def declarations (pathParams queryParams : List Parameter) (payload : Option Payload) :
    List Declaration :=
  (if pathParams.isEmpty then [] else
      [⟨.taken ((pathParams.map Parameter.name).zip (pathBindings pathParams)),
        .record (pathParams.map fun p => ⟨p.name, p.type, false⟩)⟩])
    ++ (if queryParams.isEmpty then [] else
      [⟨.whole "query", .record (queryParams.map fun p => ⟨p.name, p.type, !p.required⟩)⟩])
    ++ (payload.map fun b => ⟨.whole "body", b.type⟩).toList

/-- The names that parameters declare. -/
def declaredNames (ds : List Declaration) : List String :=
  ds.flatMap fun d => d.pattern.names

section

variable {pathParams queryParams : List Parameter} {payload : Option Payload}

/-- The text of a parameter list, which stands for none where there are no parameters. -/
def signatureText (ds : List Declaration) : String :=
  if ds.isEmpty then noArguments else ", ".intercalate (ds.map Declaration.text)

/-- **The parameter list is the text of the declarations.** -/
theorem signature_eq (pathParams queryParams : List Parameter) (payload : Option Payload) :
    signature pathParams queryParams payload
      = signatureText (declarations pathParams queryParams payload) := by
  have hpath : pathGroup pathParams = Declaration.text
      ⟨.taken ((pathParams.map Parameter.name).zip (pathBindings pathParams)),
        .record (pathParams.map fun p => ⟨p.name, p.type, false⟩)⟩ := by
    have hclose : " \x7d: " = " \x7d" ++ ": " := rfl
    simp only [pathGroup, Declaration.text, Pattern.text, List.map_zip_eq_zipWith]
    rw [hclose, ← String.append_assoc]
    rfl
  have hquery : queryGroup queryParams = Declaration.text
      ⟨.whole "query", .record (queryParams.map fun p => ⟨p.name, p.type, !p.required⟩)⟩ := rfl
  -- Each group is left out when it is empty, so the texts are compared group by group.
  have hmap : (declarations pathParams queryParams payload).map Declaration.text
      = (if pathParams.isEmpty then [] else [pathGroup pathParams])
        ++ (if queryParams.isEmpty then [] else [queryGroup queryParams])
        ++ (payload.map fun b => "body: " ++ b.type.text).toList := by
    rw [declarations, List.map_append, List.map_append, hpath, hquery]
    split_ifs <;> cases payload <;> rfl
  rw [signature, signatureText, ← hmap]
  simp only [List.isEmpty_map]

/-- The names of the query and the body, as far as there are any. -/
def fixedNames (queryParams : List Parameter) (payload : Option Payload) : List String :=
  (if queryParams.isEmpty then [] else ["query"]) ++ (payload.map fun _ => "body").toList

/-- The names that the parameters of the function declare. -/
theorem declaredNames_declarations :
    declaredNames (declarations pathParams queryParams payload)
      = pathBindings pathParams ++ fixedNames queryParams payload := by
  have hpath : ((pathParams.map Parameter.name).zip (pathBindings pathParams)).map Prod.snd
      = pathBindings pathParams :=
    List.map_snd_zip (Nat.le_of_eq (length_bindingsAfter [] _))
  have htaken : declaredNames (if pathParams.isEmpty then [] else
      [⟨.taken ((pathParams.map Parameter.name).zip (pathBindings pathParams)),
        .record (pathParams.map fun p => ⟨p.name, p.type, false⟩)⟩]) = pathBindings pathParams := by
    cases pathParams with
    | nil => rfl
    | cons p ps => exact (List.flatMap_singleton _ _).trans hpath
  rw [declarations, List.append_assoc, declaredNames, List.flatMap_append, ← declaredNames, htaken]
  refine congrArg _ ?_
  rw [fixedNames, List.flatMap_append]
  split_ifs <;> cases payload <;> rfl

/-! ### Clashes -/

theorem eq_of_mem_fixedNames {n : String} (h : n ∈ fixedNames queryParams payload) :
    n = "query" ∨ n = "body" := by
  rw [fixedNames] at h
  rcases List.mem_append.mp h with h | h
  · split_ifs at h
    · cases h
    · exact Or.inl (List.mem_singleton.mp h)
  · obtain ⟨_, -, rfl⟩ := Option.map_eq_some_iff.mp (Option.mem_toList.mp h)
    exact Or.inr rfl

theorem head?_fixedNames : ∀ n ∈ fixedNames queryParams payload, n.toList.head? ≠ some '_' := by
  intro n hn
  rcases eq_of_mem_fixedNames hn with rfl | rfl <;> decide

theorem isLegal_fixedNames : ∀ n ∈ fixedNames queryParams payload, IsLegal n.toList := by
  intro n hn
  rcases eq_of_mem_fixedNames hn with rfl | rfl
  · exact ⟨⟨'q', _, rfl, by decide⟩, List.all_eq_true.mp (by decide), by decide⟩
  · exact ⟨⟨'b', _, rfl, by decide⟩, List.all_eq_true.mp (by decide), by decide⟩

/-- No path parameter has one of several names if and only if no path parameter's own name is made
into one. -/
theorem pathBindings_disjoint_iff {names : List String}
    (h : ∀ n ∈ names, n.toList.head? ≠ some '_') :
    (∀ b ∈ pathBindings pathParams, b ∉ names) ↔
      ∀ p ∈ pathParams, bindingName p.name ∉ names := by
  constructor
  · intro hfree p hp hmem
    refine hfree _ ((mem_bindings_iff (h _ hmem)).mpr ?_) hmem
    exact ⟨p.name, List.mem_map_of_mem hp, rfl⟩
  · intro hfree b hb hmem
    obtain ⟨name, hname, rfl⟩ := (mem_bindings_iff (h b hmem)).mp hb
    obtain ⟨p, hp, rfl⟩ := List.mem_map.mp hname
    exact hfree p hp hmem

/-- The parameters have distinct names if and only if no path parameter is named as the query or the
body. -/
theorem nodup_declaredNames_iff :
    (declaredNames (declarations pathParams queryParams payload)).Nodup ↔
      ∀ p ∈ pathParams, bindingName p.name ∉ fixedNames queryParams payload := by
  have hfixed : (fixedNames queryParams payload).Nodup := by
    rw [fixedNames]
    split_ifs <;> cases payload <;> simp
  rw [declaredNames_declarations, List.nodup_append,
    ← pathBindings_disjoint_iff head?_fixedNames]
  constructor
  · exact fun ⟨_, _, hne⟩ b hb hmem => hne b hb b hmem rfl
  · exact fun hfree => ⟨nodup_bindings _, hfixed, fun b hb n hn heq => hfree b hb (heq ▸ hn)⟩

end

/-! ### Names in the body -/

/-- The names that the body of a function declares. -/
def localNames (queryParams : List Parameter) : List String :=
  ["url"] ++ (if queryParams.isEmpty then [] else ["queryStr"]) ++ ["options", "res"]

/-- The names of the environment on which the body of a function relies. -/
def globalNames : List String :=
  ["fetch", "console", "process", "URLSearchParams", "Object", "String", "JSON"]

theorem head?_localNames (queryParams : List Parameter) :
    ∀ n ∈ localNames queryParams, n.toList.head? ≠ some '_' := by
  have hall : ∀ n ∈ ["url", "queryStr", "options", "res"], n.toList.head? ≠ some '_' := by decide
  refine fun n h => hall n ?_
  rw [localNames] at h
  split_ifs at h
  · exact List.mem_append.mpr ((List.mem_append.mp h).imp_left (List.mem_append_left ["queryStr"]))
  · exact h

theorem head?_globalNames : ∀ n ∈ globalNames, n.toList.head? ≠ some '_' := by decide

end ServerActions.Action

namespace ServerActions.Generation

open ServerActions.Action (Parameter Payload Call pathBindings placedIn Declaration declarations
  declaredNames fixedNames localNames globalNames)
open Description (Document Operation OrReference)
open Reference (Run Session)
open TypeScript

/-! ### Names of functions -/

/-- A name of the environment begins with no small letter, or has small letters only. -/
theorem globalNames_cases {n : String} (h : n ∈ globalNames) :
    n.toList.head?.any Char.isLower = false ∨ ∀ c ∈ n.toList, c.isLower = true := by
  have hall : ∀ n ∈ globalNames,
      n.toList.head?.any Char.isLower = false ∨ n.toList.all Char.isLower = true := by decide
  exact (hall n h).imp_right List.all_eq_true.mp

/-- **The name made from a method and a path can be declared**, and is no name of the
environment. -/
theorem operationName_derived {method path : String} {declared : Option String}
    (hmethod : method ∈ Description.methods) (hpath : path.toList.head? = some '/')
    (hdeclared : declared.getD "" = "") :
    IsLegal (operationName method path declared).toList ∧
      operationName method path declared ∉ globalNames := by
  have hname : (operationName method path declared).toList
      = camelFold (method.toList ++ joinWords path.toList) :=
    toList_operationName_of_empty hdeclared
  obtain ⟨hne, hletters⟩ := isLower_of_mem_methods hmethod
  obtain ⟨c, rest, heq, hc, -⟩ := exists_camelFold_eq hletters hpath
  refine ⟨hname ▸ isLegal_camelFold_words hne hletters hpath, fun hglobal => ?_⟩
  rw [heq] at hname
  -- The name begins with a small letter, the method's, and has a character that is none.
  rcases globalNames_cases hglobal with hhead | hall
  · obtain ⟨l, letters, hl⟩ := List.exists_cons_of_ne_nil hne
    have hlower : l.isLower = true := hletters l (hl ▸ List.mem_cons_self ..)
    rw [hname, hl] at hhead
    exact absurd (hhead.symm.trans hlower) Bool.false_ne_true
  · rw [hall c (by rw [hname]; simp)] at hc
    cases hc

/-- The name that an operation declares is taken in camel case. -/
theorem operationName_some {method path id : String} (hid : id ≠ "") :
    (operationName method path (some id)).toList = camelFold id.toList := by
  have hne : id.isEmpty = false := by simpa using hid
  rw [operationName, hne, if_neg Bool.false_ne_true, operationName.folded, String.toList_ofList]

/-! ### The function of an operation -/

section

variable {doc : Document} {s : DocumentSettings} {path method : String} {o : Operation}

variable {pathParameters : Option (List (OrReference Description.Parameter))}

/-- A body is sent if and only if the operation has one. -/
theorem isSome_payload {compositions : Bool} {session : Session} {body : Option Payload}
    (h : (payload doc compositions o session).1 = .ok body) :
    body.isSome = o.requestBody.isSome := by
  unfold payload at h
  cases hbody : o.requestBody with
  | none =>
    rw [hbody] at h
    cases h
    rfl
  | some given =>
    rw [hbody] at h
    obtain ⟨b, _, -, h⟩ := Run.bind_eq_ok h
    cases hmedia : jsonMediaType? b.content with
    | none =>
      rw [hmedia] at h
      cases h
      rfl
    | some m =>
      rw [hmedia] at h
      obtain ⟨_, _, -, h⟩ := Run.bind_eq_ok h
      cases h
      rfl

/-- The unit of an operation is built of its parameters and its body. -/
theorem compile_eq_ok {session : Session} {u : Action.Unit}
    (h : (compile doc s path method o pathParameters session).1 = .ok u) :
    ∃ params body,
      (parameters doc s.synthesizeCompositions o pathParameters session).1 = .ok params ∧
      body.isSome = o.requestBody.isSome ∧ u.name = operationName method path o.operationId ∧
      u.call = Call.build params path method (root s) body := by
  obtain ⟨params, body, response, _, hparams, hbody, rfl⟩ := build_of_compile h
  exact ⟨params, body, hparams, isSome_payload hbody, rfl, rfl⟩

/-- What holds of the names of the function of an operation, when its parameters are the ones
given. -/
structure NamedWell (o : Operation) (pathParams queryParams : List Parameter)
    (payload : Option Payload) (u : Action.Unit) : Prop where
  /-- The parameter list is that of the declarations. -/
  signature : u.call.signature = Action.signatureText (declarations pathParams queryParams payload)
  /-- Without a name declared, the name can be declared and is none of the environment's. -/
  derived : o.operationId.getD "" = "" → IsLegal u.name.toList ∧ u.name ∉ globalNames
  /-- With a name declared, that is the name, in camel case, and can be declared if it could be as
  it was. -/
  declared : ∀ id, o.operationId = some id → id ≠ "" → u.name.toList = camelFold id.toList ∧
    (IsLegal id.toList → IsLegal u.name.toList)
  /-- The parameters can be declared, when no path parameter's name ends with a line feed. -/
  legal : (∀ p ∈ pathParams, p.name.toList.getLast? ≠ some '\n') →
    ∀ n ∈ declaredNames (declarations pathParams queryParams payload), IsLegal n.toList
  /-- The names of path parameters are distinct. -/
  distinct : (pathBindings pathParams).Nodup
  /-- All names of parameters are, unless a path parameter is named as the query or the body. -/
  apart : (declaredNames (declarations pathParams queryParams payload)).Nodup ↔
    ∀ p ∈ pathParams, bindingName p.name ∉ fixedNames queryParams payload
  /-- No path parameter has a local name, unless its own name is made into it. -/
  localFree : (∀ b ∈ pathBindings pathParams, b ∉ localNames queryParams) ↔
    ∀ p ∈ pathParams, bindingName p.name ∉ localNames queryParams
  /-- No path parameter has a name of the environment, unless its own name is made into it. -/
  globalFree : (∀ b ∈ pathBindings pathParams, b ∉ globalNames) ↔
    ∀ p ∈ pathParams, bindingName p.name ∉ globalNames

/-- **The names of a function that is made** are those of its declarations; without a name declared
it has one that can be; its path parameters have distinct names that can be declared, and these
clash with other names only where a path parameter's own name is made into one of them. -/
theorem namedWell_of_compile (source : String) (v : Value) (doc : Document)
    (hcheck : Loading.check source v = .ok doc) (s : DocumentSettings) (path method : String)
    (o : Operation) (hdeclares : doc.Declares path method o)
    (pathParameters : Option (List (OrReference Description.Parameter))) (session : Session)
    (u : Action.Unit) (hu : (compile doc s path method o pathParameters session).1 = .ok u) :
    ∃ params body,
      (parameters doc s.synthesizeCompositions o pathParameters session).1 = .ok params ∧
      body.isSome = o.requestBody.isSome ∧ u.call = Call.build params path method (root s) body ∧
      NamedWell o (placedIn .path params) (placedIn .query params) body u := by
  obtain ⟨hpath, hmethod⟩ := hdeclares.of_check hcheck
  obtain ⟨params, body, hparams, hbody, hname, hcall⟩ := compile_eq_ok hu
  refine ⟨params, body, hparams, hbody, hcall, ?_⟩
  refine ⟨?_, fun h => ?_, fun id hid hne => ?_, fun hend n hn => ?_, nodup_bindings _,
    Action.nodup_declaredNames_iff, Action.pathBindings_disjoint_iff (Action.head?_localNames _),
    Action.pathBindings_disjoint_iff Action.head?_globalNames⟩
  · rw [hcall]
    exact Action.signature_eq _ _ _
  · rw [hname]
    exact operationName_derived hmethod hpath h
  · have hfold : u.name.toList = camelFold id.toList := by
      rw [hname, hid, operationName_some hne]
    refine ⟨hfold, fun hlegal => ?_⟩
    rw [hfold]
    exact isLegal_camelFold hlegal
  · rw [Action.declaredNames_declarations] at hn
    rcases List.mem_append.mp hn with hn | hn
    · refine isLegal_of_mem_bindings (fun name hname => ?_) hn
      obtain ⟨p, hp, rfl⟩ := List.mem_map.mp hname
      exact hend p hp
    · exact Action.isLegal_fixedNames n hn

end

/-! ### Two operations -/

/-- An operation on a path, which declares a name and has parameters of places. -/
structure Sample where
  path : String
  id : String
  params : List (String × Place)

/-- The description with this operation, as it is written. -/
def Sample.value (a : Sample) : Value :=
  .map [(.str "paths", .map [(.str a.path, .map [(.str "get", .map [(.str "operationId", .str a.id),
    (.str "parameters", .list (a.params.map fun p =>
      .map [(.str "name", .str p.1), (.str "in", .str p.2.name)]))])])])]

/-- The operation, as it is read. -/
def Sample.operation (a : Sample) : Operation where
  tags := none
  summary := none
  description := none
  operationId := some a.id
  parameters := some (a.params.map fun p => .object ⟨p.1, p.2, none, false, false, none, []⟩)
  requestBody := none
  responses := []
  deprecated := false
  extras := []

/-- The description, as it is read. -/
def Sample.document (a : Sample) : Document where
  contents := ⟨none, none, none,
    [(a.path, ⟨none, none, none, [("get", a.operation)], []⟩)], none, []⟩
  raw := a.value.fields?.getD []

/-- The parameters of the function. -/
def Sample.parameters (a : Sample) : List Parameter :=
  a.params.map fun p => ⟨p.1, p.2, false, .any, none⟩

/-- The unit of the operation. -/
def Sample.unit (a : Sample) : Action.Unit :=
  .build (operationName "get" a.path (some a.id)) "get" a.path .any
    (root (.ofSource "api.yaml" "out")) a.parameters none []

/-- An operation that declares no name, with parameters whose names are made fit. -/
def renamed : Sample where
  path := "/pets/\x7bdelete\x7d"
  id := ""
  params := [("delete", .path), ("pet-id", .path), ("petId", .path), ("Query", .path),
    ("limit", .query)]

/-- An operation whose names clash: what it declares is no name, three of its path parameters are
named as the query, a local name and a name of the environment, and the name of a fourth one ends
with a line feed. -/
def clashing : Sample where
  path := "/pets"
  id := "list-pets"
  params := [("query", .path), ("url", .path), ("fetch", .path), ("id\n", .path), ("limit", .query)]

theorem declares_sample (a : Sample) : a.document.Declares a.path "get" a.operation :=
  ⟨_, List.mem_singleton_self _, List.mem_singleton_self _⟩

theorem namedWell_of_compile_renamed :
    Loading.check "api.yaml" renamed.value = .ok renamed.document ∧
      renamed.document.Declares renamed.path "get" renamed.operation ∧
      (compile renamed.document (.ofSource "api.yaml" "out") renamed.path "get" renamed.operation
        none .fresh).1 = .ok renamed.unit ∧
      NamedWell renamed.operation (placedIn .path renamed.parameters)
        (placedIn .query renamed.parameters) none renamed.unit := by
  refine ⟨rfl, declares_sample renamed, rfl, ?_⟩
  obtain ⟨params, body, hparams, hbody, -, hwell⟩ := namedWell_of_compile "api.yaml" renamed.value
    renamed.document rfl (.ofSource "api.yaml" "out") renamed.path "get" renamed.operation
    (declares_sample renamed) none .fresh renamed.unit rfl
  have hparams : renamed.parameters = params := Except.ok.inj hparams
  cases body with
  | none => exact hparams ▸ hwell
  | some b => cases hbody

/-- The names of this operation's function clash, and two of them cannot be declared. -/
theorem clashing_names_clash :
    Loading.check "api.yaml" clashing.value = .ok clashing.document ∧
      clashing.document.Declares clashing.path "get" clashing.operation ∧
      (compile clashing.document (.ofSource "api.yaml" "out") clashing.path "get" clashing.operation
        none .fresh).1 = .ok clashing.unit ∧
      let pathParams := placedIn .path clashing.parameters
      let ds := declarations pathParams (placedIn .query clashing.parameters) none
      clashing.unit.call.signature = Action.signatureText ds ∧
        ¬ IsLegal clashing.unit.name.toList ∧ ¬ (∀ n ∈ declaredNames ds, IsLegal n.toList) ∧
        ¬ (declaredNames ds).Nodup ∧
        ¬ (∀ b ∈ pathBindings pathParams, b ∉ localNames (placedIn .query clashing.parameters)) ∧
        ¬ (∀ b ∈ pathBindings pathParams, b ∉ globalNames) := by
  refine ⟨rfl, declares_sample clashing, rfl, ?_, fun h => ?_, fun h => ?_, by decide, by decide,
    by decide⟩
  · exact Action.signature_eq (placedIn .path clashing.parameters)
      (placedIn .query clashing.parameters) none
  · exact absurd (h.chars '-' (by decide)) (by decide)
  · exact absurd ((h "id\n" (by decide)).chars '\n' (by decide)) (by decide)

end ServerActions.Generation
