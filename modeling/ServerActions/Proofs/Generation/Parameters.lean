import ServerActions.Proofs.Entries
import ServerActions.Proofs.Generation.Compilation

/-!
# The parameters of an operation

An operation has the parameters it declares and those that its path declares.  Where several
declarations have one name and one place, the first of the operation counts, or else the first of
the path; the others are as if they were not there.  Parameters in headers and cookies are found but
are no part of the call.

## Main definitions

* `LeadTo` — what declarations are given, and the parameters that they lead to.
* `effective?` — the declaration that counts for a name and a place.
* `firsts` — the first declaration for each name and place.
* `takeUp` — one declaration becomes a parameter of the call.
* `EffectiveParameters` — the parameters of a call are those of the declarations that count.

## Main results

* `parametersFrom_nil_eq` — finding the parameters is taking up the first declarations.
* `parameters_effective` — what the parameters of an operation are.
-/

namespace ServerActions.Generation

open Description (Document OrReference Operation)
open Reference (Run Session)
open TypeScript (TypeExpr)

/-! ### Sessions that find the same -/

section

variable {root : Fields} {compositions : Bool}

/-- A node that may be absent has the same type in all sessions that find the same. -/
theorem steady_typeOf?_of_find (session : Session) (n : Option Description.Node) :
    (Reference.typeOf? root compositions n).Steady fun s =>
      s.find root = session.find root := by
  cases n with
  | none => exact .pure _
  | some n =>
    refine ⟨(Reference.typeOf root compositions n session).1, fun s hs => ⟨?_, ?_⟩⟩
    · have houtcome := (Reference.outcome_typeOf session n _).mp
        (Eq.refl (Reference.typeOf root compositions n session).1)
      exact (Reference.outcome_typeOf s n _).mpr (hs ▸ houtcome)
    · exact (Reference.find_typeOf s n).trans hs

/-- A remark changes nothing of what is found. -/
theorem keeps_note (session : Session) (n : Notice) :
    Run.Keeps (fun s => s.find root = session.find root) (Run.note n) (· = .ok ()) :=
  fun s hs => ⟨rfl, (Reference.find_congr (s := (Run.note n s).2) (t := s) rfl).trans hs⟩

end

/-! ### Declarations -/

/-- What tells declarations apart: the name of the parameter and its place. -/
def declarationKey (p : Description.Parameter) : String × Place :=
  (p.name, p.place)

/-- The declarations that are given, in place or by reference, lead to these parameters. -/
def LeadTo (doc : Document) :
    List (OrReference Description.Parameter) → List Description.Parameter → Prop :=
  List.Forall₂ fun given p => Reference.object doc.raw Description.Parameter.model given = .ok p

/-- The declaration that counts for a name and a place: the first one of the operation, or else the
first one of its path. -/
def effective? (own inherited : List Description.Parameter) (key : String × Place) :
    Option Description.Parameter :=
  (own.find? (declarationKey · = key)).or (inherited.find? (declarationKey · = key))

/-- The first declaration for each name and place. -/
def firsts : List Description.Parameter → List Description.Parameter
  | [] => []
  | p :: ps => p :: (firsts ps).filter fun q => declarationKey q ≠ declarationKey p

section

variable {p : Description.Parameter} {ps qs : List Description.Parameter}

/-- What leads to parameters one after the other, does so in two parts. -/
theorem LeadTo.of_append {doc : Document} {before after : List (OrReference Description.Parameter)}
    (h : LeadTo doc (before ++ after) ps) :
    ∃ bs as, LeadTo doc before bs ∧ LeadTo doc after as ∧ ps = bs ++ as := by
  induction before generalizing ps with
  | nil => exact ⟨[], ps, .nil, h, rfl⟩
  | cons g before ih =>
    obtain ⟨p, rest, hp, hrest, rfl⟩ := List.forall₂_cons_left_iff.mp h
    obtain ⟨bs, as, hbs, has, rfl⟩ := ih hrest
    exact ⟨p :: bs, as, .cons hp hbs, has, rfl⟩

/-- The first declarations of two lists are those of one, then those of the other that the one does
not have. -/
theorem firsts_append (ps qs : List Description.Parameter) :
    firsts (ps ++ qs)
      = firsts ps ++ (firsts qs).filter fun q => declarationKey q ∉ ps.map declarationKey := by
  induction ps with
  | nil => simp [firsts]
  | cons p ps ih =>
    rw [List.cons_append, firsts, firsts, ih, List.filter_append, List.filter_filter,
      List.cons_append]
    refine congrArg _ (congrArg _ (List.filter_congr fun q _ => ?_))
    simp only [List.map_cons, List.mem_cons, not_or, Bool.decide_and]

/-- A declaration that is not the first one may be left out. -/
theorem firsts_of_shadowed (h : declarationKey p ∈ ps.map declarationKey) :
    firsts (ps ++ p :: qs) = firsts (ps ++ qs) := by
  rw [firsts_append, firsts_append, firsts, List.filter_cons_of_neg (by simpa using h),
    List.filter_filter]
  refine congrArg _ (List.filter_congr fun q _ => ?_)
  -- What is not declared before is not this declaration either.
  have hne : declarationKey q ∉ ps.map declarationKey → declarationKey q ≠ declarationKey p :=
    fun hq heq => hq (heq ▸ h)
  simpa using hne

/-- Where all declarations of some names and places are left out, the first ones of the others
stay. -/
theorem firsts_filter {keep : Description.Parameter → Bool}
    (hkeep : ∀ p q, declarationKey p = declarationKey q → keep p = keep q) :
    firsts (ps.filter keep) = (firsts ps).filter keep := by
  induction ps with
  | nil => rfl
  | cons p ps ih =>
    by_cases hk : keep p = true
    · rw [List.filter_cons_of_pos hk, firsts, firsts, List.filter_cons_of_pos hk, ih,
        List.filter_comm]
    · rw [List.filter_cons_of_neg hk, firsts, List.filter_cons_of_neg hk, ih, List.filter_filter]
      refine List.filter_congr fun q _ => ?_
      -- No other declaration with this name and place is kept either.
      have hne : keep q = true → declarationKey q ≠ declarationKey p := fun hq heq =>
        hk (hkeep q p heq ▸ hq)
      simpa using hne

/-- The names and places of the first declarations, in the order in which they appear. -/
theorem map_declarationKey_firsts (ps : List Description.Parameter) :
    (firsts ps).map declarationKey = (ps.map declarationKey).eraseDups := by
  induction ps using List.reverseRecOn with
  | nil => rfl
  | append_singleton ps p ih =>
    rw [List.map_append, List.map_cons, List.map_nil, eraseDups_concat, ← ih, firsts_append,
      List.map_append, firsts, firsts, List.filter_nil]
    by_cases hp : declarationKey p ∈ ps.map declarationKey
    · rw [if_pos hp, List.filter_cons_of_neg (by simpa using hp), List.filter_nil, List.map_nil,
        List.append_nil]
    · rw [if_neg hp, List.filter_cons_of_pos (by simpa using hp), List.filter_nil, List.map_cons,
        List.map_nil]

/-- A declaration among the first ones is the first with its name and place. -/
theorem find?_of_mem_firsts (h : p ∈ firsts ps) :
    ps.find? (declarationKey · = declarationKey p) = some p := by
  induction ps with
  | nil => cases h
  | cons q ps ih =>
    rcases List.mem_cons.mp h with rfl | h
    · exact List.find?_cons_of_pos (by simp)
    · obtain ⟨hmem, hne⟩ := List.mem_filter.mp h
      rw [List.find?_cons_of_neg (by simpa using Ne.symm (of_decide_eq_true hne)), ih hmem]

end

/-! ### Taking up declarations -/

/-- The parameter of the call that a declaration becomes. -/
def taken (p : Description.Parameter) (t : TypeExpr) : Action.Parameter :=
  ⟨p.name, p.place, p.required, t, p.description⟩

/-- The parameter is made of the declaration, whose schema has a type. -/
def TakenWith (typeOf : Description.Parameter → Except Failure TypeExpr)
    (p : Description.Parameter) (a : Action.Parameter) : Prop :=
  ∃ t, typeOf p = .ok t ∧ a = taken p t

/-- Declarations whose schemas all have types can be made parameters of. -/
theorem exists_takenWith {typeOf : Description.Parameter → Except Failure TypeExpr}
    {ps : List Description.Parameter} (h : ∀ p ∈ ps, ∃ t, typeOf p = .ok t) :
    ∃ params, List.Forall₂ (TakenWith typeOf) ps params := by
  induction ps with
  | nil => exact ⟨[], .nil⟩
  | cons p ps ih =>
    obtain ⟨t, ht⟩ := h p (List.mem_cons_self ..)
    obtain ⟨params, hparams⟩ := ih fun q hq => h q (List.mem_cons_of_mem _ hq)
    exact ⟨taken p t :: params, .cons ⟨t, ht, rfl⟩ hparams⟩

section

variable (doc : Document) (compositions : Bool)

/-- A declaration becomes a parameter of the call, when its schema has a type. -/
def takeUp (p : Description.Parameter) : Run Action.Parameter := do
  if p.place = .header ∨ p.place = .cookie then Run.note (unwiredNotice p)
  let t ← Reference.typeOf? doc.raw compositions p.schema
  return taken p t

variable {doc compositions}

/-- Finding the parameters is taking up the first declarations, except for those seen. -/
theorem parametersFrom_eq {given : List (OrReference Description.Parameter)}
    {ps : List Description.Parameter} (h : LeadTo doc given ps) (seen : List (String × Place)) :
    parametersFrom doc compositions seen given
      = ((firsts ps).filter fun p => declarationKey p ∉ seen).mapM (takeUp doc compositions) := by
  induction h generalizing seen with
  | nil => rfl
  | @cons g p given ps hp _ ih =>
    have hobject : Run.ofExcept (Reference.object doc.raw Description.Parameter.model g)
        = (pure p : Run Description.Parameter) := by
      rw [hp]
      rfl
    rw [parametersFrom, hobject, pure_bind, firsts]
    -- A declaration that was seen is passed over on both sides; one that is new is seen from then
    -- on.
    by_cases hseen : declarationKey p ∈ seen
    · have hrest : ∀ q : Description.Parameter, declarationKey q ∉ seen →
          declarationKey q ≠ declarationKey p := fun q hq heq => hq (heq ▸ hseen)
      rw [List.filter_cons_of_neg (by simpa using hseen), List.filter_filter]
      refine ((if_pos hseen).trans (ih seen)).trans (congrArg _ (List.filter_congr fun q _ => ?_))
      simpa using hrest q
    · have hrest : (firsts ps).filter (fun q => declarationKey q ∉ declarationKey p :: seen)
          = ((firsts ps).filter fun q => declarationKey q ≠ declarationKey p).filter
              fun q => declarationKey q ∉ seen := by
        rw [List.filter_filter]
        refine List.filter_congr fun q _ => ?_
        simp only [List.mem_cons, not_or, Bool.decide_and]
        exact Bool.and_comm _ _
      rw [List.filter_cons_of_pos (by simpa using hseen), List.mapM_cons, ← hrest, ← ih, takeUp]
      refine (if_neg hseen).trans ?_
      split_ifs <;> simp only [bind_assoc, pure_bind] <;> rfl

/-- **Finding the parameters is taking up the first declarations.**  So the others have no part in
it: neither do their types have to be made, nor is anything remarked or remembered for them. -/
theorem parametersFrom_nil_eq {given : List (OrReference Description.Parameter)}
    {ps : List Description.Parameter} (h : LeadTo doc given ps) :
    parametersFrom doc compositions [] given = (firsts ps).mapM (takeUp doc compositions) := by
  rw [parametersFrom_eq h]
  simp

/-- Declarations whose schemas have types become the parameters made of them, in all sessions that
find the same. -/
theorem keeps_takeUp {session : Session} {ps : List Description.Parameter}
    {params : List Action.Parameter}
    (h : List.Forall₂ (TakenWith fun p =>
      (Reference.typeOf? doc.raw compositions p.schema session).1) ps params) :
    Run.Keeps (fun s => s.find doc.raw = session.find doc.raw)
      (ps.mapM (takeUp doc compositions)) (· = .ok params) := by
  induction h with
  | nil => exact .pure rfl
  | @cons p a ps params ha _ ih =>
    obtain ⟨t, ht, rfl⟩ := ha
    have htype : Run.Keeps (fun s => s.find doc.raw = session.find doc.raw)
        (Reference.typeOf? doc.raw compositions p.schema) (· = .ok t) :=
      ((steady_typeOf?_of_find session p.schema).keeps rfl).mono fun r hr => hr.trans ht
    have htaken : Run.Keeps (fun s => s.find doc.raw = session.find doc.raw)
        (takeUp doc compositions p) (· = .ok (taken p t)) := by
      rw [takeUp]
      -- The note on a header or a cookie changes nothing that is found.
      split_ifs
      · refine (keeps_note session _).bind (fun _ _ => ?_) fun e he => nomatch he
        refine htype.bind (fun t' ht' => .pure ?_) fun e he => nomatch he
        rw [Except.ok.inj ht']
      · refine htype.bind (fun t' ht' => .pure ?_) fun e he => nomatch he
        rw [Except.ok.inj ht']
    rw [List.mapM_cons]
    refine htaken.bind (fun a ha => ?_) fun e he => nomatch he
    refine ih.bind (fun as has => .pure ?_) fun e he => nomatch he
    rw [Except.ok.inj ha, Except.ok.inj has]

end

/-! ### The parameters of an operation -/

/-- The parameters of a call are those of the declarations that count: there is one for each name
and place that is declared and no other, they stand in the order in which the names and places are
declared first, those of the operation before those of its path, and each is made of the declaration
that counts. -/
structure EffectiveParameters (typeOf : Description.Parameter → Except Failure TypeExpr)
    (own inherited : List Description.Parameter) (params : List Action.Parameter) : Prop where
  once : (params.map fun a => (a.name, a.place)).Nodup
  declared : ∀ key, key ∈ params.map (fun a => (a.name, a.place)) ↔
    key ∈ own.map declarationKey ∨ key ∈ inherited.map declarationKey
  order : (params.map fun a => (a.name, a.place))
    = ((own ++ inherited).map declarationKey).eraseDups
  chosen : ∀ a ∈ params, ∃ p, effective? own inherited (a.name, a.place) = some p ∧
    TakenWith typeOf p a

/-- The declarations given with one left out that has the name and the place of one before it. -/
def WithoutShadowed (doc : Document) (given less : List (OrReference Description.Parameter)) :
    Prop :=
  ∃ before shadowed after earlier p q, given = before ++ shadowed :: after ∧
    less = before ++ after ∧ earlier ∈ before ∧
    Reference.object doc.raw Description.Parameter.model earlier = .ok q ∧
    Reference.object doc.raw Description.Parameter.model shadowed = .ok p ∧
    declarationKey q = declarationKey p

/-- Whether a parameter is sent in the path or in the query. -/
def isWired (place : Place) : Bool :=
  place = .path || place = .query

/-- The declarations given without those that lead to a parameter in a header or a cookie. -/
def wired (doc : Document) (given : List (OrReference Description.Parameter)) :
    List (OrReference Description.Parameter) :=
  given.filter fun g =>
    match Reference.object doc.raw Description.Parameter.model g with
    | .ok p => isWired p.place
    | .error _ => true

section

variable {doc : Document} {given less : List (OrReference Description.Parameter)}
  {ps own inherited : List Description.Parameter} {key : String × Place}
  {p : Description.Parameter}

/-- The first declarations are those that count. -/
theorem effective?_of_mem_firsts (h : p ∈ firsts (own ++ inherited)) :
    effective? own inherited (declarationKey p) = some p := by
  rw [effective?, ← List.find?_append]
  exact find?_of_mem_firsts h

/-- The parameters made of the first declarations are those of the declarations that count. -/
theorem effectiveParameters_of_firsts {typeOf : Description.Parameter → Except Failure TypeExpr}
    {params : List Action.Parameter}
    (h : List.Forall₂ (TakenWith typeOf) (firsts (own ++ inherited)) params) :
    EffectiveParameters typeOf own inherited params := by
  -- A parameter keeps the name and the place that its declaration has.
  have hkeys : (params.map fun a => (a.name, a.place))
      = (firsts (own ++ inherited)).map declarationKey := by
    generalize firsts (own ++ inherited) = ps at h
    induction h with
    | nil => rfl
    | cons ha _ ih =>
      obtain ⟨t, -, rfl⟩ := ha
      rw [List.map_cons, List.map_cons, ih]
      rfl
  have horder : (params.map fun a => (a.name, a.place))
      = ((own ++ inherited).map declarationKey).eraseDups := by
    rw [hkeys, map_declarationKey_firsts]
  refine ⟨horder ▸ nodup_eraseDups _, fun key => ?_, horder, fun a ha => ?_⟩
  · rw [horder, List.mem_eraseDups, List.map_append, List.mem_append]
  · obtain ⟨p, hp, t, ht, rfl⟩ := Reference.exists_of_forall₂ h.flip ha
    exact ⟨p, effective?_of_mem_firsts hp, t, ht, rfl⟩

/-- A declaration that does not count may be left out. -/
theorem parametersFrom_of_withoutShadowed {compositions : Bool}
    (hlead : LeadTo doc given ps) (h : WithoutShadowed doc given less) :
    parametersFrom doc compositions [] less = parametersFrom doc compositions [] given := by
  obtain ⟨before, shadowed, after, earlier, p, q, rfl, rfl, hearlier, hq, hp, hkey⟩ := h
  obtain ⟨bs, _, hbs, hrest, rfl⟩ := hlead.of_append
  obtain ⟨p', as, hp', has, rfl⟩ := List.forall₂_cons_left_iff.mp hrest
  obtain ⟨q', hmem, hq'⟩ := Reference.exists_of_forall₂ hbs hearlier
  obtain rfl := Except.ok.inj (hp.symm.trans hp')
  obtain rfl := Except.ok.inj (hq.symm.trans hq')
  have hshadowed : declarationKey p ∈ bs.map declarationKey :=
    List.mem_map.mpr ⟨q, hmem, hkey⟩
  rw [parametersFrom_nil_eq hlead, parametersFrom_nil_eq (List.rel_append hbs has),
    firsts_of_shadowed hshadowed]

/-- What is left without parameters in headers and cookies leads to the parameters that are not
there. -/
theorem leadTo_wired (h : LeadTo doc given ps) :
    LeadTo doc (wired doc given) (ps.filter fun p => isWired p.place) := by
  refine List.rel_filter (fun g p hp => ?_) h
  simp only [hp]

end

/-! ### Units -/

/-- The unit of an operation whose parameters are found already. -/
def compileWith (doc : Document) (s : DocumentSettings) (path method : String) (o : Operation)
    (params : List Action.Parameter) : Run Action.Unit := do
  let body ← payload doc s.synthesizeCompositions o
  let response ← responseType doc s.synthesizeCompositions o
  return Action.Unit.build (TypeScript.operationName method path o.operationId) method path response
    (root s) params body (TypeScript.docLines o.summary o.description o.deprecated)

section

variable {doc : Document} {s : DocumentSettings} {path method : String} {o : Operation}

/-- Parameters in headers and cookies are no part of the unit. -/
theorem compileWith_filter (params : List Action.Parameter) :
    compileWith doc s path method o (params.filter fun a => isWired a.place)
      = compileWith doc s path method o params := by
  have hplaced : ∀ place, isWired place = true →
      Action.placedIn place (params.filter fun a => isWired a.place)
        = Action.placedIn place params := by
    intro place hplace
    rw [Action.placedIn, Action.placedIn, List.filter_filter]
    refine List.filter_congr fun a _ => ?_
    by_cases ha : a.place = place
    · simp [ha, hplace]
    · simp [ha]
  simp only [compileWith, Action.Unit.build, Action.Call.build, hplaced .path rfl,
    hplaced .query rfl]

/-- The unit is the same in all sessions that find the same. -/
theorem steady_compileWith (session : Session) (params : List Action.Parameter) :
    (compileWith doc s path method o params).Steady fun s' =>
      s'.find doc.raw = session.find doc.raw := by
  have htype : ∀ n, (Reference.typeOf? doc.raw s.synthesizeCompositions n).Steady fun s' =>
      s'.find doc.raw = session.find doc.raw := steady_typeOf?_of_find session
  exact (steady_payload doc _ htype o).bind fun _ =>
    (steady_responseType doc _ htype o).bind fun _ => .pure _

/-- Without the declarations of parameters in headers and cookies the other parameters are found. -/
theorem keeps_parameters_wired {session : Session}
    {pathParameters : Option (List (OrReference Description.Parameter))}
    {ps : List Description.Parameter} {params : List Action.Parameter}
    (hlead : LeadTo doc (o.parameters.getD [] ++ pathParameters.getD []) ps)
    (hparams : List.Forall₂ (TakenWith fun p =>
      (Reference.typeOf? doc.raw s.synthesizeCompositions p.schema session).1) (firsts ps) params) :
    Run.Keeps (fun s' => s'.find doc.raw = session.find doc.raw)
      (parameters doc s.synthesizeCompositions { o with parameters := o.parameters.map (wired doc) }
        (pathParameters.map (wired doc)))
      (· = .ok (params.filter fun a => isWired a.place)) := by
  have hgiven : (o.parameters.map (wired doc)).getD [] ++ (pathParameters.map (wired doc)).getD []
      = wired doc (o.parameters.getD [] ++ pathParameters.getD []) := by
    rw [wired, List.filter_append]
    cases o.parameters <;> cases pathParameters <;> rfl
  have hplace : ∀ p q : Description.Parameter, declarationKey p = declarationKey q →
      isWired p.place = isWired q.place :=
    fun p q hpq => congrArg isWired (Prod.ext_iff.mp hpq).2
  -- Declarations with one key are in one place, so leaving some out and taking first ones commute.
  rw [parameters, hgiven, parametersFrom_nil_eq (leadTo_wired hlead), firsts_filter hplace]
  refine keeps_takeUp (List.rel_filter (fun p a ha => ?_) hparams)
  obtain ⟨t, -, rfl⟩ := ha
  exact Iff.rfl

/-- An operation compiles with the parameters found, in all sessions that find the same. -/
theorem compile_eq_compileWith {session : Session} {params : List Action.Parameter}
    {pathParameters : Option (List (OrReference Description.Parameter))}
    (h : Run.Keeps (fun s' => s'.find doc.raw = session.find doc.raw)
      (parameters doc s.synthesizeCompositions o pathParameters) (· = .ok params)) :
    (compile doc s path method o pathParameters session).1
      = (compileWith doc s path method o params session).1 := by
  have hrest : Run.Keeps (fun s' => s'.find doc.raw = session.find doc.raw)
      (compileWith doc s path method o params)
      (· = (compileWith doc s path method o params session).1) :=
    (steady_compileWith session params).keeps rfl
  have hcompile : Run.Keeps (fun s' => s'.find doc.raw = session.find doc.raw)
      (parameters doc s.synthesizeCompositions o pathParameters
        >>= compileWith doc s path method o)
      (· = (compileWith doc s path method o params session).1) := by
    refine h.bind (fun found hfound => ?_) fun e he => nomatch he
    rw [Except.ok.inj hfound]
    exact hrest
  exact (hcompile session rfl).1

end

/-! ### What the parameters are -/

/-- **The parameters of an operation are those of the declarations that count.**  They are found
when the schemas of those have types; a declaration that does not count changes nothing, in any
session; and the unit is the same without the declarations of parameters in headers and cookies. -/
theorem parameters_effective (doc : Document) (s : DocumentSettings) (path method : String)
    (o : Operation) (pathParameters : Option (List (OrReference Description.Parameter)))
    (session : Session) (own inherited : List Description.Parameter)
    (hown : LeadTo doc (o.parameters.getD []) own)
    (hinherited : LeadTo doc (pathParameters.getD []) inherited)
    (htyped : ∀ key p, effective? own inherited key = some p → ∃ t,
      (Reference.typeOf? doc.raw s.synthesizeCompositions p.schema session).1 = .ok t) :
    (∃ params, (parameters doc s.synthesizeCompositions o pathParameters session).1 = .ok params ∧
        EffectiveParameters
          (fun p => (Reference.typeOf? doc.raw s.synthesizeCompositions p.schema session).1)
          own inherited params) ∧
      (∀ (less : Operation) (pathLess : Option (List (OrReference Description.Parameter))),
        WithoutShadowed doc (o.parameters.getD [] ++ pathParameters.getD [])
            (less.parameters.getD [] ++ pathLess.getD []) →
          parameters doc s.synthesizeCompositions less pathLess
            = parameters doc s.synthesizeCompositions o pathParameters) ∧
      (compile doc s path method { o with parameters := o.parameters.map (wired doc) }
          (pathParameters.map (wired doc)) session).1
        = (compile doc s path method o pathParameters session).1 := by
  have hlead : LeadTo doc (o.parameters.getD [] ++ pathParameters.getD []) (own ++ inherited) :=
    List.rel_append hown hinherited
  obtain ⟨params, hparams⟩ := exists_takenWith fun p hp =>
    htyped _ p (effective?_of_mem_firsts hp)
  have hfound : Run.Keeps (fun s' => s'.find doc.raw = session.find doc.raw)
      (parameters doc s.synthesizeCompositions o pathParameters) (· = .ok params) := by
    rw [parameters, parametersFrom_nil_eq hlead]
    exact keeps_takeUp hparams
  refine ⟨⟨params, (hfound session rfl).1, effectiveParameters_of_firsts hparams⟩,
    fun less pathLess h => parametersFrom_of_withoutShadowed hlead h, ?_⟩
  rw [compile_eq_compileWith (keeps_parameters_wired hlead hparams), compile_eq_compileWith hfound,
    ← compileWith_filter params]
  rfl

/-! ### Parameters that are declared several times -/

/-- A declaration with a schema. -/
def declaredWith (name : String) (place : Place) (schema : Description.Node) :
    Description.Parameter :=
  ⟨name, place, none, false, false, some schema, []⟩

/-- A schema with nothing but a type. -/
def schemaOf (type : String) : Description.Node :=
  .schema ⟨none, none, some (.one type), none, none, none, none, none⟩ none none none none none []

/-- A reference that leads nowhere. -/
def missingSchema : Description.Node :=
  .reference ⟨"#/components/schemas/Missing", []⟩

/-- A description with a parameter among its components whose schema is missing. -/
def sharedLimit : Document where
  contents := ⟨none, none, none, [], none, []⟩
  raw := [(.str "components", .map [(.str "parameters", .map [(.str "Limit", .map
    [(.str "name", .str "limit"), (.str "in", .str "query"),
      (.str "schema", .map [(.str "$ref", .str "#/components/schemas/Missing")])])])])]

/-- Declarations of an operation: one of them twice, the second time with a schema that is missing,
and one in a header. -/
def repeatedOwn : List Description.Parameter :=
  [declaredWith "limit" .query (schemaOf "integer"),
    declaredWith "trace" .header (schemaOf "string"), declaredWith "limit" .query missingSchema]

/-- Declarations of a path: the same once more, and another one. -/
def repeatedInherited : List Description.Parameter :=
  [declaredWith "limit" .query missingSchema, declaredWith "id" .path (schemaOf "string")]

/-- The operation, with its declarations given in place. -/
def repeatedOperation : Operation :=
  ⟨none, none, none, none, some (repeatedOwn.map .object), none, [], false, []⟩

/-- What is given for the path, one of it by reference. -/
def repeatedPath : Option (List (OrReference Description.Parameter)) :=
  some [.reference ⟨"#/components/parameters/Limit", []⟩,
    .object (declaredWith "id" .path (schemaOf "string"))]

/-- The parameters of that operation are found, although the schemas of declarations that do not
count are missing. -/
theorem parameters_effective_repeated :
    LeadTo sharedLimit (repeatedOperation.parameters.getD []) repeatedOwn ∧
      LeadTo sharedLimit (repeatedPath.getD []) repeatedInherited ∧
      ∃ params, (parameters sharedLimit false repeatedOperation repeatedPath .fresh).1 = .ok params ∧
        (params.map fun a => (a.name, a.place))
          = [("limit", .query), ("trace", .header), ("id", .path)] := by
  have hown : LeadTo sharedLimit (repeatedOperation.parameters.getD []) repeatedOwn :=
    .cons rfl (.cons rfl (.cons rfl .nil))
  have hinherited : LeadTo sharedLimit (repeatedPath.getD []) repeatedInherited :=
    .cons rfl (.cons rfl .nil)
  have htyped : ∀ key p, effective? repeatedOwn repeatedInherited key = some p →
      ∃ t, (Reference.typeOf? sharedLimit.raw false p.schema .fresh).1 = .ok t := by
    intro key p h
    rw [effective?, ← List.find?_append] at h
    have hmem := List.mem_of_find?_eq_some h
    obtain rfl : declarationKey p = key := by simpa using List.find?_some h
    simp only [repeatedOwn, repeatedInherited, List.cons_append, List.nil_append, List.mem_cons,
      List.not_mem_nil, or_false] at hmem
    rcases hmem with rfl | rfl | rfl | rfl | rfl
    · exact ⟨.number, rfl⟩
    · exact ⟨.string, rfl⟩
    · cases h
    · cases h
    · exact ⟨.string, rfl⟩
  obtain ⟨params, hparams, heffective⟩ := (parameters_effective sharedLimit
    (DocumentSettings.ofSource "api.yaml" "out") "/pets/\x7bid\x7d" "get" repeatedOperation
    repeatedPath .fresh repeatedOwn repeatedInherited hown hinherited htyped).1
  exact ⟨hown, hinherited, params, hparams, heffective.order.trans (by decide)⟩

end ServerActions.Generation
