import ServerActions.Generation.Document
import ServerActions.Proofs.Reference.Memory

/-!
# Compiling does not depend on what came before

The unit of an operation is the same in every session that finds what the description has, whatever
was compiled in it already.  On the way there are only remarks of the lowest level.

## Main definitions

* `Quiet` — a session finds what the description has, and has only remarks of the lowest level.
* `Compiles` — an operation of a description has a unit.

## Main results

* `steady_compile` — an operation compiles to the same in all quiet sessions.
* `keeps_compileAll`, `forall₂_of_compileAll` — several operations compile to units if and only if
  each of them has its unit.
-/

namespace ServerActions

/-! ### Quiet sessions -/

namespace Generation

open Description (Document Node OrReference Operation)
open Reference (Run Session)

/-- The session finds what the description has, and all remarks in it are of the lowest level. -/
structure Quiet (root : Fields) (s : Session) : Prop where
  faithful : Reference.Faithful root s
  debug : ∀ n ∈ s.notices, n.level = .debug

theorem quiet_fresh (root : Fields) : Quiet root .fresh :=
  ⟨Reference.faithful_fresh root, fun _ h => nomatch h⟩

section

variable {root : Fields} {compositions : Bool}

/-- A remark of the lowest level leaves a session quiet. -/
theorem steady_note {n : Notice} (hn : n.level = .debug) : (Run.note n).Steady (Quiet root) := by
  refine ⟨.ok (), fun s hs => ⟨rfl, ?_, fun m hm => ?_⟩⟩
  · exact (Reference.find_congr (s := (Run.note n s).2) (t := s) rfl).trans hs.faithful
  · rcases List.mem_append.mp hm with hm | hm
    · exact hs.debug m hm
    · rw [List.mem_singleton.mp hm, hn]

/-- Looking up a schema makes no remark, and a reference that is cut makes one of the lowest
level. -/
theorem debug_typeOf (n : Node) :
    Run.Preserves (fun s => ∀ m ∈ s.notices, m.level = .debug)
      (Reference.typeOf root compositions n) := by
  refine Reference.preserves_typeOf (fun ref s hs => ⟨trivial, ?_⟩)
    (fun ref s hs => ⟨trivial, fun m hm => ?_⟩) n
  · unfold Reference.schema
    cases s.memo.lookup ref with
    | some n => exact hs
    | none =>
      cases Reference.target root ref with
      | error e => exact hs
      | ok n => exact hs
  · rcases List.mem_append.mp hm with hm | hm
    · exact hs m hm
    · rw [List.mem_singleton.mp hm]
      rfl

/-- The type of a node is the same in all quiet sessions. -/
theorem steady_typeOf (n : Node) :
    (Reference.typeOf root compositions n).Steady (Quiet root) :=
  ⟨(Reference.typeOf root compositions n .fresh).1, fun s hs =>
    ⟨Reference.typeOf_of_faithful hs.faithful n, Reference.faithful_typeOf hs.faithful n,
      (debug_typeOf n s hs.debug).2⟩⟩

theorem steady_typeOf? (n : Option Node) :
    (Reference.typeOf? root compositions n).Steady (Quiet root) := by
  cases n with
  | none => exact .pure _
  | some n => exact steady_typeOf n

end

/-! ### The parts of an operation -/

section

variable (doc : Document) (compositions : Bool)

theorem steady_parametersFrom (seen : List (String × Place))
    (given : List (OrReference Description.Parameter)) :
    (parametersFrom doc compositions seen given).Steady (Quiet doc.raw) := by
  induction given generalizing seen with
  | nil => exact .pure _
  | cons p given ih =>
    rw [parametersFrom]
    refine (Run.Steady.ofExcept _).bind fun p => ?_
    split_ifs
    · exact ih seen
    · refine (steady_note rfl).bind fun _ => (steady_typeOf? _).bind fun t => ?_
      exact (ih _).bind fun ps => .pure _
    · refine (steady_typeOf? _).bind fun t => ?_
      exact (ih _).bind fun ps => .pure _

/-- The body of a request is the same in all sessions in which the types of nodes are. -/
theorem steady_payload {I : Session → Prop}
    (htype : ∀ n, (Reference.typeOf? doc.raw compositions n).Steady I) (o : Operation) :
    (payload doc compositions o).Steady I := by
  unfold payload
  cases o.requestBody with
  | none => exact .pure _
  | some given =>
    refine (Run.Steady.ofExcept _).bind fun b => ?_
    cases jsonMediaType? b.content with
    | none => exact .pure _
    | some m => exact (htype _).bind fun t => .pure _

/-- And so is the type of the response. -/
theorem steady_responseType {I : Session → Prop}
    (htype : ∀ n, (Reference.typeOf? doc.raw compositions n).Steady I) (o : Operation) :
    (responseType doc compositions o).Steady I := by
  unfold responseType
  cases o.responses.lookup successStatus with
  | none => exact .pure _
  | some given =>
    refine (Run.Steady.ofExcept _).bind fun r => ?_
    cases jsonMediaType? (r.content.getD []) with
    | none => exact .pure _
    | some m => exact htype _

end

/-! ### Units -/

section

variable {doc : Document} {s : DocumentSettings}

/-- **An operation compiles to the same in all quiet sessions.** -/
theorem steady_compile (path method : String) (o : Operation)
    (pathParameters : Option (List (OrReference Description.Parameter))) :
    (compile doc s path method o pathParameters).Steady (Quiet doc.raw) :=
  (steady_parametersFrom doc _ _ _).bind fun _ =>
    (steady_payload doc _ steady_typeOf? o).bind fun _ =>
      (steady_responseType doc _ steady_typeOf? o).bind fun _ => .pure _

/-- The unit of an operation is built of its parts, which are found one after the other. -/
theorem build_of_compile {path method : String} {o : Operation}
    {pathParameters : Option (List (OrReference Description.Parameter))} {session : Session}
    {u : Action.Unit} (h : (compile doc s path method o pathParameters session).1 = .ok u) :
    ∃ params body response later,
      (parameters doc s.synthesizeCompositions o pathParameters session).1 = .ok params ∧
      (payload doc s.synthesizeCompositions o later).1 = .ok body ∧
      u = .build (TypeScript.operationName method path o.operationId) method path response (root s)
        params body (TypeScript.docLines o.summary o.description o.deprecated) := by
  obtain ⟨params, later, hparams, h⟩ := Run.bind_eq_ok h
  obtain ⟨body, _, hbody, h⟩ := Run.bind_eq_ok h
  obtain ⟨response, _, -, h⟩ := Run.bind_eq_ok h
  cases h
  exact ⟨params, body, response, later, by rw [hparams], by rw [hbody], rfl⟩

/-- The operation, compiled for itself, has the unit. -/
def Compiles (doc : Document) (s : DocumentSettings) (d : Declared) (u : Action.Unit) : Prop :=
  (compile doc s d.path d.method d.operation d.item.parameters .fresh).1 = .ok u

/-- Where each of several operations has a unit, they compile to these units. -/
theorem keeps_compileAll {ds : List Declared} {us : List Action.Unit}
    (h : List.Forall₂ (Compiles doc s) ds us) :
    (compileAll doc s ds).Keeps (Quiet doc.raw) (· = .ok us) := by
  induction h with
  | nil => exact .pure rfl
  | @cons d u ds us hu _ ih =>
    have hcompile := (steady_compile (s := s) d.path d.method d.operation
      d.item.parameters).keeps (quiet_fresh doc.raw)
    rw [hu] at hcompile
    rw [compileAll]
    refine hcompile.bind (fun u' hu' => ?_) fun e he => nomatch he
    refine ih.bind (fun us' hus' => .pure ?_) fun e he => nomatch he
    rw [Except.ok.inj hu', Except.ok.inj hus']

/-- Where several operations compile to units, each of them has its unit. -/
theorem forall₂_of_compileAll {ds : List Declared} {us : List Action.Unit} {session : Session}
    (hquiet : Quiet doc.raw session) (h : (compileAll doc s ds session).1 = .ok us) :
    List.Forall₂ (Compiles doc s) ds us := by
  induction ds generalizing us session with
  | nil =>
    cases h
    exact .nil
  | cons d ds ih =>
    obtain ⟨u, later, hu, h⟩ := Run.bind_eq_ok h
    obtain ⟨us, last, hus, h⟩ := Run.bind_eq_ok h
    cases h
    obtain ⟨heq, hlater⟩ := (steady_compile (s := s) d.path d.method d.operation
      d.item.parameters).keeps (quiet_fresh doc.raw) session hquiet
    rw [hu] at heq hlater
    exact .cons heq.symm (ih hlater (by rw [hus]))

end

end Generation

end ServerActions
