import ServerActions.Proofs.Generation.Generate

/-!
# Generators have no history

A generator answers from its settings and from the description in use alone.  Whatever was asked of
it before, and whichever of that failed, it answers as a new generator does that was given only the
description which came last.

## Main definitions

* `Request`, `Request.run` — what can be asked of a generator, and what comes of it.
* `afterwards` — a new generator after several requests.
* `latest` — the description that came last, handed over or loaded.
* `InStep` — a generator works with a description, and remembers of it only what it has.

## Main results

* `inStep_run` — a request leaves a generator in step with the description that came last.
* `run_afterwards` — **a request is answered as by a new generator** with that description.
-/

namespace ServerActions.Generation

open Description (Document Operation OrReference)
open Reference (Run Session)

/-! ### Requests -/

/-- What can be asked of a generator.  Each request comes with what can be loaded when it is
made. -/
inductive Request
  /-- That a description be taken into use. -/
  | use (doc : Document)
  /-- The units of a description that is given, or else of the one in use. -/
  | units (load : Loader) (given : Option Document)
  /-- The unit of one operation, which may be of any description. -/
  | compile (load : Loader) (path method : String) (o : Operation)
      (pathParameters : Option (List (OrReference Description.Parameter)))

/-- What comes of a request: units, or a failure, and the generator after it. -/
def Request.run (g : Generator) : Request → Outcome (List Action.Unit)
  | .use doc => ⟨.ok [], g.use doc, []⟩
  | .units load given => g.units load given
  | .compile load path method o pathParameters =>
    let compiled := g.compile load path method o pathParameters
    ⟨compiled.result.map ([·]), compiled.generator, compiled.notices⟩

/-- A new generator after requests made one after the other, failed ones among them. -/
def afterwards (s : DocumentSettings) (requests : List Request) : Generator :=
  requests.foldl (fun g r => (r.run g).generator) (.new s)

/-- The description that is handed over with a request. -/
def Request.handed? : Request → Option Document
  | .use doc => some doc
  | .units _ given => given
  | .compile .. => none

/-- The description that a request loads where none is in use. -/
def Request.loaded? (source : String) : Request → Option Document
  | .use _ => none
  | .units load _ => (load source).toOption
  | .compile load .. => (load source).toOption

/-- The description that came last: the last one handed over, or else the first that could be
loaded, after which nothing is loaded any more. -/
def latest (source : String) (requests : List Request) : Option Document :=
  (requests.filterMap Request.handed?).getLast?.or (requests.findSome? (Request.loaded? source))

/-- A new generator that was given a description, if there is one. -/
def freshWith (s : DocumentSettings) : Option Document → Generator
  | some doc => (Generator.new s).use doc
  | none => .new s

/-! ### Results that do not depend on the session -/

/-- A computation has the same result in all quiet sessions, and what is found stays. -/
def Settled (root : Fields) {α : Type} (x : Run α) : Prop :=
  ∀ session, Quiet root session →
    (x session).1 = (x .fresh).1 ∧ Reference.Faithful root (x session).2

section

variable {root : Fields} {doc : Document} {s : DocumentSettings} {α β : Type} {x : Run α}

theorem settled_of_steady (hx : x.Steady (Quiet root)) : Settled root x := by
  intro session hquiet
  obtain ⟨hresult, hlater⟩ := hx.keeps (quiet_fresh root) session hquiet
  exact ⟨hresult, hlater.faithful⟩

/-- A computation goes on to the same in all quiet sessions, since it reaches quiet ones. -/
theorem settled_bind (hx : x.Steady (Quiet root)) {f : α → Run β}
    (hf : ∀ a, Settled root (f a)) : Settled root (x >>= f) := by
  intro session hquiet
  have hkeeps := hx.keeps (quiet_fresh root)
  obtain ⟨hresult, hlater⟩ := hkeeps session hquiet
  obtain ⟨-, hlater'⟩ := hkeeps .fresh (quiet_fresh root)
  rw [Run.bind_apply, Run.bind_apply]
  -- In both sessions the first part ends alike; after a failure nothing is left to compare.
  rcases hleft : x session with ⟨e | a, later⟩ <;>
    rcases hright : x .fresh with ⟨e' | a', later'⟩ <;>
      rw [hleft, hright] at hresult <;> rw [hleft] at hlater <;> rw [hright] at hlater'
  · cases hresult
    exact ⟨rfl, hlater.faithful⟩
  · cases hresult
  · cases hresult
  · cases hresult
    obtain ⟨hnext, hfaithful⟩ := hf a later hlater
    exact ⟨hnext.trans (hf a later' hlater').1.symm, hfaithful⟩

/-- Several operations compile to the same in all quiet sessions. -/
theorem steady_compileAll (ds : List Declared) :
    (compileAll doc s ds).Steady (Quiet doc.raw) := by
  induction ds with
  | nil => exact .pure _
  | cons d ds ih =>
    rw [compileAll]
    refine (steady_compile d.path d.method d.operation d.item.parameters).bind fun u => ?_
    exact ih.bind fun us => .pure _

/-- Names are checked with one result in all sessions, and nothing is remembered of it. -/
theorem settled_checkCollisions (us : List Action.Unit) :
    Settled root (checkCollisions s us >>= fun _ => pure us) := by
  intro session hquiet
  have hmemo : ∀ later : Session, later.memo = session.memo → Reference.Faithful root later :=
    fun later h => (Reference.find_congr h).trans hquiet.faithful
  rw [Run.bind_apply, Run.bind_apply]
  cases hfail : s.failOnCollision with
  | false =>
    rw [checkCollisions_of_not_fail hfail, checkCollisions_of_not_fail hfail]
    exact ⟨rfl, hmemo _ rfl⟩
  | true =>
    rw [checkCollisions_of_fail hfail, checkCollisions_of_fail hfail]
    cases repeatedNames us with
    | nil => exact ⟨rfl, hmemo _ rfl⟩
    | cons n ns => exact ⟨rfl, hmemo _ rfl⟩

/-- The units of a description are the same in all quiet sessions. -/
theorem settled_units (doc : Document) (s : DocumentSettings) : Settled doc.raw (units doc s) :=
  settled_bind (steady_compileAll _) settled_checkCollisions

/-- The unit of an operation is the same in all quiet sessions. -/
theorem settled_compile (doc : Document) (s : DocumentSettings) (path method : String)
    (o : Operation) (pathParameters : Option (List (OrReference Description.Parameter))) :
    Settled doc.raw (compile doc s path method o pathParameters) :=
  settled_of_steady (steady_compile path method o pathParameters)

end

/-! ### Generators in step with a description -/

/-- The generator has the settings, works with the description if there is one, and remembers of it
only what it has. -/
structure InStep (s : DocumentSettings) (doc? : Option Document) (g : Generator) : Prop where
  settings : g.settings = s
  document : g.document = doc?
  memo : ∀ doc, doc? = some doc → Reference.Faithful doc.raw ⟨g.memo, []⟩

section

variable {s : DocumentSettings} {doc : Document} {doc? : Option Document} {g g' : Generator}

theorem inStep_use (hsettings : g.settings = s) (doc : Document) :
    InStep s (some doc) (g.use doc) := by
  refine ⟨hsettings, rfl, fun _ h => ?_⟩
  cases h
  exact Reference.faithful_fresh doc.raw

theorem inStep_freshWith (s : DocumentSettings) (doc? : Option Document) :
    InStep s doc? (freshWith s doc?) := by
  cases doc? with
  | none => exact ⟨rfl, rfl, fun _ h => nomatch h⟩
  | some doc => exact inStep_use (g := .new s) rfl doc

/-- What a generator does with the description in use depends on the description alone, and leaves
the generator in step with it. -/
theorem InStep.run {α : Type} (h : InStep s (some doc) g) {x : Run α} (hx : Settled doc.raw x) :
    (g.run doc x).result = (x .fresh).1 ∧ InStep s (some doc) (g.run doc x).generator := by
  obtain ⟨hresult, hfaithful⟩ := hx ⟨g.memo, []⟩ ⟨h.memo doc rfl, fun _ hn => nomatch hn⟩
  refine ⟨hresult, h.settings, rfl, fun _ hdoc => ?_⟩
  cases hdoc
  have hmemo : (g.run doc x).generator.memo = (x ⟨g.memo, []⟩).2.memo := rfl
  exact (Reference.find_congr (s := ⟨_, []⟩) hmemo).trans hfaithful

/-- What a generator does with its description depends on the settings and on the description that
came last, and leaves the generator in step with that, or with the one that is loaded. -/
theorem InStep.withDocument {α : Type} (h : InStep s doc? g) (load : Loader)
    {x : Document → Run α} (hx : ∀ doc, Settled doc.raw (x doc)) :
    InStep s (doc?.or (load s.source).toOption) (g.withDocument load x).generator ∧
      ∀ g', InStep s doc? g' →
        (g.withDocument load x).result = (g'.withDocument load x).result := by
  -- Where nothing is in use, a generator loads a description and takes it into use.
  have hopen : ∀ g : Generator, InStep s doc? g →
      InStep s (doc?.or (load s.source).toOption) (g.withDocument load x).generator ∧
        (g.withDocument load x).result = match doc?, load s.source with
          | some doc, _ => (x doc .fresh).1
          | none, .ok doc => (x doc .fresh).1
          | none, .error e => .error e := by
    intro g hg
    have hdocument := hg.document
    rw [Generator.withDocument, hdocument, hg.settings]
    cases doc? with
    | some doc =>
      obtain ⟨hresult, hstep⟩ := hg.run (hx doc)
      exact ⟨hstep, hresult⟩
    | none =>
      cases load s.source with
      | error e => exact ⟨hg, rfl⟩
      | ok doc =>
        obtain ⟨hresult, hstep⟩ := (inStep_use hg.settings doc).run (hx doc)
        exact ⟨hstep, hresult⟩
  obtain ⟨hstep, hresult⟩ := hopen g h
  exact ⟨hstep, fun g' h' => hresult.trans (hopen g' h').2.symm⟩

/-- What all generators in step with a description do with it alike leaves them in step, and gives
the same. -/
theorem InStep.answer {α : Type} (h : InStep s doc? g) {f : Generator → Outcome α} {load : Loader}
    {x : Document → Run α} (hf : ∀ g, InStep s doc? g → f g = g.withDocument load x)
    (hx : ∀ doc, Settled doc.raw (x doc)) :
    InStep s (doc?.or (load s.source).toOption) (f g).generator ∧
      ∀ g', InStep s doc? g' → (f g).result = (f g').result := by
  obtain ⟨hstep, hsame⟩ := h.withDocument load hx
  rw [hf g h]
  exact ⟨hstep, fun g' h' => by rw [hf g' h', hsame g' h']⟩

/-- The description that is the last one after a request, when `doc?` was before. -/
def latestAfter (source : String) (doc? : Option Document) (r : Request) : Option Document :=
  r.handed?.or (doc?.or (r.loaded? source))

/-- **A request leaves a generator in step with the description that came last**, and all generators
in step with one description answer it alike. -/
theorem inStep_run (h : InStep s doc? g) (r : Request) :
    InStep s (latestAfter s.source doc? r) (r.run g).generator ∧
      ∀ g', InStep s doc? g' → (r.run g).result = (r.run g').result := by
  cases r with
  | use doc => exact ⟨inStep_use h.settings doc, fun _ _ => rfl⟩
  | units load given =>
    have hunits : ∀ doc? (g : Generator), InStep s doc? g →
        g.units load none = g.withDocument load fun doc => units doc s := by
      intro doc? g hg
      rw [Generator.units, ← hg.settings]
    cases given with
    | some doc =>
      -- The description that is handed over is taken into use first.
      have huse : ∀ g, InStep s doc? g → InStep s (some doc) (g.use doc) :=
        fun g hg => inStep_use hg.settings doc
      obtain ⟨hstep, hsame⟩ := (huse g h).answer (hunits _) fun doc => settled_units doc s
      exact ⟨hstep, fun g' h' => hsame _ (huse g' h')⟩
    | none => exact h.answer (hunits _) fun doc => settled_units doc s
  | compile load path method o pathParameters =>
    have hcompile : ∀ g, InStep s doc? g → g.compile load path method o pathParameters
        = g.withDocument load fun doc => compile doc s path method o pathParameters := by
      intro g hg
      rw [Generator.compile, ← hg.settings]
    obtain ⟨hstep, hsame⟩ := h.answer hcompile fun doc =>
      settled_compile doc s path method o pathParameters
    exact ⟨hstep, fun g' h' => congrArg (Except.map ([·])) (hsame g' h')⟩

end

/-! ### Several requests -/

/-- With one more request the description that came last is the one after that request. -/
theorem latest_concat (source : String) (requests : List Request) (r : Request) :
    latest source (requests ++ [r]) = latestAfter source (latest source requests) r := by
  rw [latest, latest, latestAfter, List.filterMap_append, List.getLast?_append,
    List.findSome?_append, List.findSome?_singleton]
  cases hhanded : r.handed? with
  | none =>
    rw [List.filterMap_cons_none hhanded, List.filterMap_nil, List.getLast?_nil, Option.none_or,
      Option.none_or, Option.or_assoc]
  | some doc =>
    rw [List.filterMap_cons_some hhanded, List.filterMap_nil, List.getLast?_singleton,
      Option.some_or, Option.some_or, Option.some_or]

/-- After requests a generator is in step with the description that came last. -/
theorem inStep_afterwards (s : DocumentSettings) (requests : List Request) :
    InStep s (latest s.source requests) (afterwards s requests) := by
  induction requests using List.reverseRecOn with
  | nil => exact inStep_freshWith s none
  | append_singleton requests r ih =>
    rw [latest_concat, afterwards, List.foldl_append]
    exact (inStep_run ih r).1

/-- **A request is answered as by a new generator** that was only given the description which came
last, whatever was asked for before and whichever of that failed. -/
theorem run_afterwards (s : DocumentSettings) (before : List Request) (r : Request) :
    (afterwards s before).document = latest s.source before ∧
      (r.run (afterwards s before)).result
        = (r.run (freshWith s (latest s.source before))).result := by
  have hstep : InStep s (latest s.source before) (afterwards s before) :=
    inStep_afterwards s before
  exact ⟨hstep.document, (inStep_run hstep r).2 _ (inStep_freshWith s _)⟩

end ServerActions.Generation
