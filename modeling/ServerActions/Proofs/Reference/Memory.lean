import ServerActions.Proofs.Reference.Derivation
import ServerActions.Reference.Editing

/-!
# What is remembered does not show

Whoever looks something up, follows references or makes types gets the same as in a session in which
nothing has happened yet, whatever was asked for before and whether it was there or not.  What is
remembered for a reference is what the description has at its target, so nothing is remembered for a
reference without one.

## Main definitions

* `Sound` — what a session remembers is what the description has.
* `Call`, `Answer`, `Call.run` — what can be asked for in a session, and what comes of it.
* `answers` — what comes of several calls one after the other, failures among them.

## Main results

* `preserves_typeOf` — what looking up and cutting keep, the synthesis keeps.
* `answers_eq_fresh` — **every call gets what it gets in a fresh session**.
* `Editing.schemas_forget` — where a description was edited and nothing is remembered any more, what
  it has now is found.
-/

namespace ServerActions.Reference

open Description (Node OrReference)
open TypeScript (TypeExpr)

variable {root : Fields} {compositions : Bool}

/-! ### Invariants of the synthesis -/

section

variable {I : Session → Prop}

theorem preserves_typesWith {follow : String → Run TypeExpr} {ns : List Node}
    (h : ∀ n ∈ ns, Run.Preserves I (typeWith follow compositions n)) :
    Run.Preserves I (typesWith follow compositions ns) := by
  induction ns with
  | nil => exact .pure trivial
  | cons n ns ih =>
    rw [typesWith_cons]
    refine (h n (List.mem_cons_self ..)).bind (fun t _ => ?_) fun _ _ => trivial
    refine (ih fun m hm => h m (List.mem_cons_of_mem _ hm)).bind (fun ts _ => ?_) fun _ _ => trivial
    exact .pure trivial

theorem preserves_typeWith {follow : String → Run TypeExpr}
    (h : ∀ ref, Run.Preserves I (follow ref)) (n : Node) :
    Run.Preserves I (typeWith follow compositions n) := by
  induction n using node_induction compositions with
  | h n ih =>
    cases hl : layer? compositions n with
    | none =>
      obtain ⟨r, rfl⟩ := eq_reference_of_layer? hl
      rw [typeWith]
      exact h _
    | some l =>
      rw [typeWith_of_layer? follow compositions hl]
      refine Run.Keeps.map (preserves_typesWith fun m hm => ih m ?_) fun _ _ => trivial
      rwa [children_of_layer? hl]

/-- What is kept when a schema is looked up and when a reference is cut, is kept when a reference is
followed. -/
theorem preserves_typeOfRef (hschema : ∀ ref, Run.Preserves I (schema root ref))
    (hcut : ∀ ref, Run.Preserves I (cut ref)) (bound : ℕ) (following : List String) (ref : String) :
    Run.Preserves I (typeOfRef root compositions bound following ref) := by
  induction bound generalizing following ref with
  | zero => exact hcut ref
  | succ bound ih =>
    rw [typeOfRef]
    split_ifs
    · exact hcut ref
    · exact (hschema ref).bind (fun n _ => preserves_typeWith (ih _) n) fun _ _ => trivial

/-- What is kept when a schema is looked up and when a reference is cut, is kept when the type of a
node is made. -/
theorem preserves_typeOf (hschema : ∀ ref, Run.Preserves I (schema root ref))
    (hcut : ∀ ref, Run.Preserves I (cut ref)) (n : Node) :
    Run.Preserves I (typeOf root compositions n) :=
  fun s hs => preserves_typeWith (preserves_typeOfRef hschema hcut _ _) n s hs

end

/-! ### What is remembered -/

/-- What a session remembers for a reference is what the description has at its target, and it
remembers no reference twice. -/
structure Sound (root : Fields) (s : Session) : Prop where
  target : ∀ m ∈ s.memo, Reference.target root m.1 = .ok m.2
  nodup : (s.memo.map Prod.fst).Nodup

theorem sound_fresh (root : Fields) : Sound root .fresh :=
  ⟨fun _ h => absurd h List.not_mem_nil, List.nodup_nil⟩

section

variable {s : Session} {ref : String}

/-- A session that remembers only what the description has finds only that. -/
theorem Sound.faithful (h : Sound root s) : Faithful root s := by
  funext ref
  cases hl : s.memo.lookup ref with
  | none => exact find_of_lookup_none hl
  | some n => rw [find_of_lookup_some hl, h.target (ref, n) (mem_of_lookup hl)]

/-- A reference without a target is not remembered. -/
theorem Sound.not_mem (h : Sound root s) {e : Failure} (he : Reference.target root ref = .error e) :
    ref ∉ s.memo.map Prod.fst := by
  intro hmem
  obtain ⟨m, hm, rfl⟩ := List.mem_map.mp hmem
  cases (h.target m hm).symm.trans he

/-- Looking up a schema that is not there changes nothing. -/
theorem Sound.schema_of_error (h : Sound root s) {e : Failure}
    (he : Reference.target root ref = .error e) : schema root ref s = (.error e, s) := by
  have hl : s.memo.lookup ref = none := by
    cases hl : s.memo.lookup ref with
    | none => rfl
    | some n => exact absurd (List.mem_map_of_mem (mem_of_lookup hl)) (h.not_mem he)
  simp only [schema, hl, he]

theorem sound_schema (ref : String) : Run.Preserves (Sound root) (schema root ref) := by
  refine fun s hs => ⟨trivial, ?_⟩
  cases hl : s.memo.lookup ref with
  | some n =>
    simp only [schema, hl]
    exact hs
  | none =>
    cases ht : Reference.target root ref with
    | error e =>
      rw [hs.schema_of_error ht]
      exact hs
    | ok n =>
      -- Only here is something added, and only since it was not remembered yet.
      simp only [schema, hl, ht]
      refine ⟨fun m hm => ?_, ?_⟩
      · rcases List.mem_append.mp hm with hm | hm
        · exact hs.target m hm
        · rw [List.mem_singleton.mp hm, ht]
      · rw [List.map_append]
        refine hs.nodup.append (List.nodup_singleton ref) ?_
        refine List.disjoint_singleton.mpr fun hmem => ?_
        obtain ⟨m, hm, heq⟩ := List.mem_map.mp hmem
        have hne := List.lookup_eq_none_iff.mp hl m hm
        simp [heq] at hne

theorem sound_cut (ref : String) : Run.Preserves (Sound root) (cut ref) :=
  fun _ hs => ⟨trivial, hs.target, hs.nodup⟩

end

/-! ### Calls -/

/-- What can be asked for in a session. -/
inductive Call
  /-- The value that a pointer names. -/
  | value (ref : String)
  /-- The schema that a reference points to. -/
  | schema (ref : String)
  /-- The object that is given, or that a chain of references leads to. -/
  | parameter (given : OrReference Description.Parameter)
  | requestBody (given : OrReference Description.RequestBody)
  | response (given : OrReference Description.Response)
  /-- The type of a node that may be absent. -/
  | type (compositions : Bool) (n : Option Node)
  /-- That nothing be remembered any more. -/
  | forget

/-- What comes of a call. -/
inductive Answer
  | value (v : Value)
  | schema (n : Node)
  | parameter (p : Description.Parameter)
  | requestBody (b : Description.RequestBody)
  | response (r : Description.Response)
  | type (t : TypeExpr)
  | done

/-- The computation that forgets the schemas found. -/
def Run.forget : Run Unit :=
  fun s => (.ok (), { s with memo := [] })

/-- What is done for a call. -/
def Call.run (root : Fields) : Call → Run Answer
  | .value ref => Answer.value <$> Run.ofExcept (resolve root ref)
  | .schema ref => Answer.schema <$> Reference.schema root ref
  | .parameter given =>
    Answer.parameter <$> Run.ofExcept (object root Description.Parameter.model given)
  | .requestBody given =>
    Answer.requestBody <$> Run.ofExcept (object root Description.RequestBody.model given)
  | .response given =>
    Answer.response <$> Run.ofExcept (object root Description.Response.model given)
  | .type compositions n => Answer.type <$> typeOf? root compositions n
  | .forget => (fun _ => Answer.done) <$> Run.forget

/-- What comes of calls one after the other, and the session after them.  A call that fails leaves
the session to those after it. -/
def answers (root : Fields) : List Call → Session → List (Except Failure Answer) × Session
  | [], s => ([], s)
  | c :: cs, s =>
    let first := c.run root s
    let others := answers root cs first.2
    (first.1 :: others.1, others.2)

/-! ### Answers -/

section

theorem steady_schema (ref : String) : (schema root ref).Steady (Sound root) :=
  ⟨target root ref, fun s hs => ⟨congrFun hs.faithful ref, (sound_schema ref s hs).2⟩⟩

theorem steady_typeOf? (n : Option Node) :
    (typeOf? root compositions n).Steady (Sound root) := by
  cases n with
  | none => exact .pure _
  | some n =>
    exact ⟨(typeOf root compositions n .fresh).1, fun s hs =>
      ⟨typeOf_of_faithful hs.faithful n, (preserves_typeOf sound_schema sound_cut n s hs).2⟩⟩

theorem steady_forget : Run.forget.Steady (Sound root) :=
  ⟨.ok (), fun _ _ => ⟨rfl, fun _ h => absurd h List.not_mem_nil, List.nodup_nil⟩⟩

/-- A call gets the same in all sessions that remember only what the description has, and leaves
such a session. -/
theorem Call.steady_run (c : Call) : (c.run root).Steady (Sound root) := by
  cases c with
  | value ref => exact (Run.Steady.ofExcept _).map _
  | schema ref => exact (steady_schema ref).map _
  | parameter given => exact (Run.Steady.ofExcept _).map _
  | requestBody given => exact (Run.Steady.ofExcept _).map _
  | response given => exact (Run.Steady.ofExcept _).map _
  | type compositions n => exact (steady_typeOf? n).map _
  | forget => exact steady_forget.map _

/-- Calls in a sound session get what each of them gets in a fresh one, and leave a sound one. -/
theorem answers_of_sound (calls : List Call) {s : Session} (hs : Sound root s) :
    (answers root calls s).1 = calls.map (fun c => (c.run root .fresh).1) ∧
      Sound root (answers root calls s).2 := by
  induction calls generalizing s with
  | nil => exact ⟨rfl, hs⟩
  | cons c calls ih =>
    obtain ⟨hfirst, hlater⟩ := c.steady_run.keeps (sound_fresh root) s hs
    obtain ⟨hothers, hlast⟩ := ih hlater
    refine ⟨?_, hlast⟩
    rw [answers, List.map_cons]
    exact congrArg₂ List.cons hfirst hothers

/-- **Every call gets what it gets in a fresh session**, whatever was asked for before and whether
or not that failed.  At every point what is remembered for a reference is what the description has
at its target; a reference without a target is not remembered, and looking it up changes nothing. -/
theorem answers_eq_fresh (root : Fields) (calls : List Call) :
    (answers root calls .fresh).1 = calls.map (fun c => (c.run root .fresh).1) ∧
      ∀ n, let s := (answers root (calls.take n) .fresh).2
        Sound root s ∧ ∀ ref e, target root ref = .error e →
          schema root ref s = (.error e, s) ∧ ref ∉ s.memo.map Prod.fst := by
  refine ⟨(answers_of_sound calls (sound_fresh root)).1, fun n => ?_⟩
  have hs : Sound root (answers root (calls.take n) .fresh).2 :=
    (answers_of_sound (calls.take n) (sound_fresh root)).2
  exact ⟨hs, fun ref e he => ⟨hs.schema_of_error he, hs.not_mem he⟩⟩

end

/-! ### Descriptions that can be edited -/

/-- A step that leads on is one under a name, or has a number. -/
theorem exists_index_of_stepInto {step : String} {v inner : Value}
    (h : stepInto step v = .ok (some inner)) :
    (∃ fs, v.fields? = some fs ∧ fs.has step = true) ∨
      ∃ n, (indexOf? step).toOption.join = some n := by
  -- Wherever no entry is there under the name, the step is tried as a number.
  have hindex : ∀ f : ℕ → Option Value,
      (indexOf? step).map (Option.bind · f) = .ok (some inner) →
        ∃ n, (indexOf? step).toOption.join = some n := by
    intro f hf
    cases hi : indexOf? step with
    | error e =>
      rw [hi] at hf
      cases hf
    | ok n? =>
      rw [hi] at hf
      obtain ⟨n, hn, -⟩ := Option.bind_eq_some_iff.mp (Except.ok.inj hf)
      exact ⟨n, hn⟩
  unfold stepInto at h
  split at h
  · next fs hfs =>
    split at h
    · next hget => exact Or.inl ⟨fs, hfs, by rw [Fields.has, hget, Option.isSome_some]⟩
    · exact Or.inr (hindex _ h)
  · exact Or.inr (hindex _ h)
  · cases h

/-- Where a pointer leads, a route leads too. -/
theorem routeOf_of_walk {ref walked : String} {v w : Value} {ss : List String}
    (h : walk ref walked v ss = .ok w) : ∃ route, routeOf v ss = some (route, w) := by
  induction ss generalizing walked v with
  | nil =>
    cases h
    exact ⟨[], rfl⟩
  | cons s ss ih =>
    rw [walk] at h
    split at h
    · cases h
    · cases h
    · next inner hinner =>
      obtain ⟨route, hroute⟩ := ih h
      have hjoin : (stepInto s v).toOption.join = some inner := by
        rw [hinner]
        rfl
      rw [routeOf]
      rcases exists_index_of_stepInto hinner with ⟨fs, hfs, hhas⟩ | ⟨n, hn⟩
      · simp only [hjoin, hfs, hhas, hroute, if_true, Option.bind_eq_bind, Option.bind_some]
        exact ⟨_, rfl⟩
      · simp only [hjoin, hn, hroute, Option.map_some, Option.bind_eq_bind, Option.bind_some]
        split
        · split_ifs <;> exact ⟨_, rfl⟩
        · exact ⟨_, rfl⟩

/-- **A schema is looked up as in a session that remembers the same**, and remembered as there. -/
theorem Editing.schema_eq (e : Editing) (ref : String) :
    (e.schema ref).1 = (Reference.schema e.root ref ⟨e.memo, []⟩).1 ∧
      (e.schema ref).2.memo = (Reference.schema e.root ref ⟨e.memo, []⟩).2.memo := by
  refine ⟨rfl, ?_⟩
  have hkept : ∀ found : List Kept, Editing.memo { e with kept := e.kept ++ found }
      = e.memo ++ found.filterMap fun k => k.node?.map (k.ref, ·) :=
    fun found => List.filterMap_append ..
  cases hlookup : e.memo.lookup ref with
  | some n =>
    simp only [Editing.schema, Reference.schema, hlookup, if_true, List.append_nil]
  | none =>
    cases htarget : target e.root ref with
    | error f =>
      simp only [Editing.schema, Reference.schema, hlookup, htarget, if_true, List.append_nil]
    | ok n =>
      obtain ⟨v, hv, -, hread⟩ := target_eq_ok.mp htarget
      -- The number of schemas tells that one was found, and the value it was read from is kept.
      have hlonger : (e.memo ++ [(ref, n)]).length ≠ e.memo.length := by simp
      have hfound : ∃ route, Kept.ofRef? e.root ref = some ⟨ref, route, v, []⟩ := by
        unfold resolve at hv
        split_ifs at hv
        obtain ⟨route, hroute⟩ := routeOf_of_walk hv
        exact ⟨route, by rw [Kept.ofRef?, hroute]; rfl⟩
      obtain ⟨route, hfound⟩ := hfound
      simp only [Editing.schema, Reference.schema, hlookup, htarget, hlonger, if_false, hkept,
        hfound, Option.toList_some, List.filterMap_cons, List.filterMap_nil, Kept.node?, hread,
        Checked.toOption_valid, Option.map_some]

/-- The schemas that references point to, looked up one after the other. -/
def Editing.schemas (e : Editing) : List String → List (Except Failure Node)
  | [] => []
  | ref :: refs => (e.schema ref).1 :: (e.schema ref).2.schemas refs

/-- Where only what the description has is remembered, that is what is found. -/
theorem Editing.schemas_of_sound (refs : List String) {e : Editing}
    (he : Sound e.root ⟨e.memo, []⟩) : e.schemas refs = refs.map (target e.root) := by
  induction refs generalizing e with
  | nil => rfl
  | cons ref refs ih =>
    obtain ⟨hfound, hmemo⟩ := e.schema_eq ref
    have hlater : Sound (e.schema ref).2.root ⟨(e.schema ref).2.memo, []⟩ := by
      have hsound := (sound_schema ref ⟨e.memo, []⟩ he).2
      rw [hmemo]
      exact ⟨hsound.target, hsound.nodup⟩
    rw [Editing.schemas, List.map_cons, hfound, ih hlater]
    exact congrArg (· :: _) (congrFun he.faithful ref)

/-- **Once nothing is remembered, a schema is what the description has**, as it was edited last and
whatever else is looked up before. -/
theorem Editing.schemas_forget (e : Editing) (refs : List String) :
    e.forget.schemas refs = refs.map (target e.root) :=
  schemas_of_sound refs (sound_fresh e.root)

end ServerActions.Reference
