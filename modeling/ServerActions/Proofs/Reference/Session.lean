import ServerActions.Reference.Synthesis

/-!
# Sessions keep what they find

A session remembers the schemas found in it, and what it finds for a reference does not change while
it goes on: a schema is remembered only after it was found, and a remark is remembered nowhere.  So
a computation in a session is a computation over a fixed function from references to schemas.

## Main definitions

* `Finder`, `Session.find` — a function from references to schemas, and the one of a session.
* `Faithful` — a session finds what the description has.
* `Run.Keeps` — a computation keeps an invariant of sessions, and its result is as stated.
* `Run.Steady` — a computation keeps an invariant of sessions, and has one result in all of them.

## Main results

* `find_schema` — looking up a schema changes nothing of what is found.
* `Run.Keeps.bind`, `Run.Keeps.map` — computations put together.
-/

namespace ServerActions.Reference

open Description (Node)

/-! ### What is found -/

/-- A function that gives the schema for a reference. -/
abbrev Finder := String → Except Failure Node

/-- The schema that a session finds for a reference. -/
def Session.find (root : Fields) (s : Session) : Finder :=
  fun ref => (schema root ref s).1

/-- A session finds for every reference what the description has at its target. -/
def Faithful (root : Fields) (s : Session) : Prop :=
  s.find root = target root

section

variable {root : Fields} {ref : String} {s : Session} {n : Node}

theorem find_of_lookup_some (h : s.memo.lookup ref = some n) : s.find root ref = .ok n := by
  simp only [Session.find, schema, h]

theorem find_of_lookup_none (h : s.memo.lookup ref = none) :
    s.find root ref = target root ref := by
  simp only [Session.find, schema, h]
  cases target root ref <;> rfl

/-- What is found was remembered, or is the target of the reference. -/
theorem mem_memo_or_target_of_find (h : s.find root ref = .ok n) :
    (ref, n) ∈ s.memo ∨ target root ref = .ok n := by
  cases hl : s.memo.lookup ref with
  | none => exact Or.inr ((find_of_lookup_none hl).symm.trans h)
  | some m =>
    rw [find_of_lookup_some hl] at h
    cases h
    obtain ⟨before, after, hmemo, -⟩ := List.lookup_eq_some_iff.mp hl
    exact Or.inl (by simp [hmemo])

/-- What is found depends on the schemas remembered only. -/
theorem find_congr {s t : Session} (h : s.memo = t.memo) : s.find root = t.find root := by
  funext ref
  cases hl : t.memo.lookup ref with
  | none => rw [find_of_lookup_none hl, find_of_lookup_none (h ▸ hl)]
  | some m => rw [find_of_lookup_some hl, find_of_lookup_some (h ▸ hl)]

/-- Looking up a schema remembers it, unless it was remembered or is not there. -/
theorem memo_schema (root : Fields) (ref : String) (s : Session) :
    (schema root ref s).2.memo = s.memo ∨
      ∃ n, target root ref = .ok n ∧ (schema root ref s).2.memo = s.memo ++ [(ref, n)] := by
  unfold schema
  cases s.memo.lookup ref with
  | some n => exact Or.inl rfl
  | none =>
    cases target root ref with
    | error e => exact Or.inl rfl
    | ok n => exact Or.inr ⟨n, rfl, rfl⟩

/-- **Looking up a schema changes nothing of what is found.** -/
theorem find_schema (root : Fields) (ref : String) (s : Session) :
    (schema root ref s).2.find root = s.find root := by
  rcases memo_schema root ref s with hm | ⟨n, ht, hm⟩
  · exact find_congr hm
  · -- The new schema comes last, so it counts only where nothing was remembered.
    have happ : ∀ r, (schema root ref s).2.memo.lookup r
        = (s.memo.lookup r).or (if r = ref then some n else none) := by
      intro r
      rw [hm, List.lookup_append, List.lookup_cons, List.lookup_nil]
      by_cases hr : r = ref
      · simp [hr]
      · rw [beq_false_of_ne hr, if_neg hr]
    funext r
    cases hr : s.memo.lookup r with
    | some m =>
      rw [find_of_lookup_some hr]
      exact find_of_lookup_some (by rw [happ, hr]; rfl)
    | none =>
      rw [find_of_lookup_none hr]
      by_cases hrr : r = ref
      · rw [hrr, ht]
        exact find_of_lookup_some (by rw [happ, ← hrr, hr, if_pos rfl]; rfl)
      · exact find_of_lookup_none (by rw [happ, hr, if_neg hrr]; rfl)

theorem faithful_fresh (root : Fields) : Faithful root .fresh := by
  funext ref
  exact find_of_lookup_none rfl

theorem faithful_schema (h : Faithful root s) : Faithful root (schema root ref s).2 :=
  (find_schema root ref s).trans h

end

/-! ### Computations -/

namespace Run

variable {α β : Type}

/-- One computation after another goes on in the session that the first one leaves. -/
theorem bind_apply (x : Run α) (f : α → Run β) (s : Session) :
    (x >>= f) s = match x s with
      | (.ok a, s') => f a s'
      | (.error e, s') => (.error e, s') := by
  change (ExceptT.bindCont f (x s).1) (x s).2 = _
  rcases x s with ⟨_ | _, _⟩ <;> rfl

/-- One computation after another has a result if both have. -/
theorem bind_eq_ok {x : Run α} {f : α → Run β} {s : Session} {b : β}
    (h : ((x >>= f) s).1 = .ok b) : ∃ a s', x s = (.ok a, s') ∧ (f a s').1 = .ok b := by
  rw [bind_apply] at h
  rcases hx : x s with ⟨e | a, s'⟩
  · rw [hx] at h
    cases h
  · rw [hx] at h
    exact ⟨a, s', rfl, h⟩

/-- The computation keeps `I`, and its result satisfies `Q`. -/
def Keeps (I : Session → Prop) (x : Run α) (Q : Except Failure α → Prop) : Prop :=
  ∀ s, I s → Q (x s).1 ∧ I (x s).2

/-- The computation keeps `I`, whatever its result. -/
abbrev Preserves (I : Session → Prop) (x : Run α) : Prop :=
  Keeps I x fun _ => True

variable {I : Session → Prop} {x : Run α} {Q : Except Failure α → Prop}

theorem Keeps.pure {a : α} (h : Q (.ok a)) : Keeps I (Pure.pure a : Run α) Q :=
  fun _ hs => ⟨h, hs⟩

theorem Keeps.mono {R : Except Failure α → Prop} (hx : Keeps I x Q) (h : ∀ r, Q r → R r) :
    Keeps I x R :=
  fun s hs => ⟨h _ (hx s hs).1, (hx s hs).2⟩

theorem Keeps.bind {f : α → Run β} {R : Except Failure β → Prop} (hx : Keeps I x Q)
    (hok : ∀ a, Q (.ok a) → Keeps I (f a) R) (herr : ∀ e, Q (.error e) → R (.error e)) :
    Keeps I (x >>= f) R := by
  intro s hs
  obtain ⟨hq, hi⟩ := hx s hs
  rw [bind_apply]
  rcases hr : x s with ⟨e | a, s'⟩
  · rw [hr] at hq hi
    exact ⟨herr e hq, hi⟩
  · rw [hr] at hq hi
    exact hok a hq s' hi

theorem Keeps.map {f : α → β} {R : Except Failure β → Prop} (hx : Keeps I x Q)
    (h : ∀ r, Q r → R (r.map f)) : Keeps I (f <$> x) R := by
  rw [map_eq_pure_bind]
  exact hx.bind (fun a ha => .pure (h _ ha)) fun e he => h _ he

/-! ### One result -/

/-- The computation keeps `I`, and has the same result in all sessions with `I`. -/
def Steady (I : Session → Prop) (x : Run α) : Prop :=
  ∃ r, Keeps I x (· = r)

theorem Steady.pure (a : α) : Steady I (Pure.pure a : Run α) :=
  ⟨.ok a, .pure rfl⟩

theorem Steady.bind {f : α → Run β} (hx : Steady I x) (hf : ∀ a, Steady I (f a)) :
    Steady I (x >>= f) := by
  obtain ⟨r, hr⟩ := hx
  cases r with
  | error e =>
    refine ⟨.error e, hr.bind (fun a ha => ?_) fun e' he' => ?_⟩
    · cases ha
    · cases he'
      rfl
  | ok a =>
    obtain ⟨r, hfa⟩ := hf a
    refine ⟨r, hr.bind (fun a' ha' => ?_) fun e he => ?_⟩
    · cases ha'
      exact hfa
    · cases he

theorem Steady.map (hx : Steady I x) (f : α → β) : Steady I (f <$> x) := by
  rw [map_eq_pure_bind]
  exact hx.bind fun _ => .pure _

theorem Steady.ofExcept (e : Except Failure α) : Steady I (Run.ofExcept e) :=
  ⟨e, fun _ hs => ⟨rfl, hs⟩⟩

/-- In each session with `I` the result is the one that it is in another such session. -/
theorem Steady.keeps (hx : Steady I x) {s : Session} (hs : I s) : Keeps I x (· = (x s).1) := by
  obtain ⟨r, hr⟩ := hx
  rw [(hr s hs).1]
  exact hr

end Run

section

variable {root : Fields} {find : Finder}

/-- Looking up a schema gives what is found, and keeps it. -/
theorem keeps_schema (ref : String) :
    Run.Keeps (fun s => s.find root = find) (schema root ref) (· = find ref) :=
  fun s hs => ⟨congrFun hs ref, (find_schema root ref s).trans hs⟩

/-- A reference that is met again gives the type that stands in for it. -/
theorem keeps_cut (ref : String) :
    Run.Keeps (fun s => s.find root = find) (cut ref) (· = .ok .circular) :=
  fun s hs => ⟨rfl, (find_congr (s := (cut ref s).2) (t := s) rfl).trans hs⟩

end

end ServerActions.Reference
