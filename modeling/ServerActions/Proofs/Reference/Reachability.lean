import Mathlib.Logic.Relation
import ServerActions.Proofs.Reference.Termination
import ServerActions.Proofs.TypeScript.Meaning

/-!
# Broken references and cycles

From a node the synthesis looks into its children, and from a reference into the target.  What the
synthesis does with a node is a matter of the references that are met in this way: it fails if and
only if one of them is broken, and the type that stands in for a schema within itself comes up if
and only if one of them leads back to itself.

A branch of the recursion does not go on at a reference that it is following already, and so does
not look at all that can be reached.  What it leaves out lies behind a reference further up on the
same branch, and is looked at from there.

## Main definitions

* `LooksInto`, `Meets`, `Returns` — the steps from node to node, the references met on them, and the
  references that lead back to themselves.
* `Expands` — a type of a node in which every reference is replaced by its target.

## Main results

* `typeOf_fails_iff` — the synthesis fails if and only if a broken reference is met.
* `circular_iff_returns` — the type that stands in comes up if and only if a reference is met that
  leads back to itself; without it, every reference is replaced.
-/

namespace ServerActions.Reference

open Description (Node referenceKey)
open TypeScript
open Relation (ReflTransGen)

/-! ### Steps from node to node -/

/-- The nodes that are looked into from a node. -/
inductive LooksInto (find : Finder) (compositions : Bool) : Node → Node → Prop
  /-- A child of a schema. -/
  | child {n m : Node} (hm : m ∈ children compositions n) : LooksInto find compositions n m
  /-- The target of a reference. -/
  | target {r : Description.Reference} {m : Node} (hm : find r.target = .ok m) :
      LooksInto find compositions (.reference r) m

/-- A reference with the text `ref` is met from a node. -/
def Meets (find : Finder) (compositions : Bool) (n : Node) (ref : String) : Prop :=
  ∃ r, ReflTransGen (LooksInto find compositions) n (.reference r) ∧ r.target = ref

/-- A reference leads back to itself. -/
def Returns (find : Finder) (compositions : Bool) (ref : String) : Prop :=
  ∃ m, find ref = .ok m ∧ Meets find compositions m ref

section

variable {find : Finder} {compositions : Bool} {n m : Node} {ref : String}

theorem Meets.self (r : Description.Reference) :
    Meets find compositions (.reference r) r.target :=
  ⟨r, .refl, rfl⟩

theorem Meets.head (h : LooksInto find compositions n m) (hm : Meets find compositions m ref) :
    Meets find compositions n ref := by
  obtain ⟨r, hr, rfl⟩ := hm
  exact ⟨r, .head h hr, rfl⟩

/-- What is met from a schema is met from one of its children. -/
theorem Meets.of_layer {l : Layer} (hl : layer? compositions n = some l)
    (h : Meets find compositions n ref) : ∃ m ∈ l.parts, Meets find compositions m ref := by
  obtain ⟨r, hr, rfl⟩ := h
  rcases hr.cases_head with rfl | ⟨m, hstep, hrest⟩
  · cases hl
  · cases hstep with
    | child hm => exact ⟨m, children_of_layer? hl ▸ hm, r, hrest, rfl⟩
    | target => cases hl

/-- What is met from a reference is itself, or is met from its target. -/
theorem Meets.of_target {r : Description.Reference} (hm : find r.target = .ok m)
    (h : Meets find compositions (.reference r) ref) :
    ref = r.target ∨ Meets find compositions m ref := by
  obtain ⟨q, hq, rfl⟩ := h
  rcases hq.cases_head with heq | ⟨m', hstep, hrest⟩
  · cases heq
    exact Or.inl rfl
  · cases hstep with
    | child hm' => cases hm'
    | target hm' =>
      obtain rfl := Except.ok.inj (hm.symm.trans hm')
      exact Or.inr ⟨q, hrest, rfl⟩

end

/-! ### Failures -/

/-- A node that fails meets the reference that is broken. -/
theorem Fails.meets {find : Finder} {compositions : Bool} {following : List String} {n : Node}
    {e : Failure} (h : Fails find compositions following n e) :
    ∃ ref, Meets find compositions n ref ∧ find ref = .error e := by
  induction h with
  | @broken _ r _ _ he => exact ⟨r.target, .self r, he⟩
  | target _ hm _ ih =>
    obtain ⟨ref, href, he⟩ := ih
    exact ⟨ref, href.head (.target hm), he⟩
  | @layer _ n l before after m _ hl hparts _ _ ih =>
    obtain ⟨ref, href, he⟩ := ih
    have hm : m ∈ children compositions n := by simp [children_of_layer? hl, hparts]
    exact ⟨ref, href.head (.child hm), he⟩

/-- A step that does not go on at a reference of `following`. -/
def Around (find : Finder) (compositions : Bool) (following : List String) (n m : Node) : Prop :=
  LooksInto find compositions n m ∧ ∀ r, n = .reference r → r.target ∉ following

section

variable {find : Finder} {compositions : Bool} {following : List String} {n m p : Node}

/-- A path goes around one more reference, or else the rest of it does from where it last goes on at
that reference. -/
theorem Around.cons (ref : String)
    (h : ReflTransGen (Around find compositions following) n p) :
    ReflTransGen (Around find compositions (ref :: following)) n p ∨
      ∃ m, find ref = .ok m ∧
        ReflTransGen (Around find compositions (ref :: following)) m p := by
  induction h with
  | refl => exact Or.inl .refl
  | @tail a b _ hab ih =>
    -- The path is cut where it last stands at the reference.
    by_cases ha : ∃ r, a = .reference r ∧ r.target = ref
    · obtain ⟨r, rfl, rfl⟩ := ha
      cases hab.1 with
      | child hb => cases hb
      | target hb => exact Or.inr ⟨b, hb, .refl⟩
    · have hstep : Around find compositions (ref :: following) a b := by
        refine ⟨hab.1, fun r hr hmem => ?_⟩
        rcases List.mem_cons.mp hmem with href | hmem
        · exact ha ⟨r, hr, href⟩
        · exact hab.2 r hr hmem
      rcases ih with h | ⟨m, hm, h⟩
      · exact Or.inl (h.tail hstep)
      · exact Or.inr ⟨m, hm, h.tail hstep⟩

/-- A node that yields a type meets no broken reference, unless behind a reference that is being
followed. -/
theorem Yields.found {t : TypeExpr} (h : Yields find compositions following n t) :
    ∀ r : Description.Reference,
      ReflTransGen (Around find compositions following) n (.reference r) →
        r.target ∈ following ∨ ∃ m, find r.target = .ok m := by
  induction h with
  | @again following q hq =>
    intro r hr
    rcases hr.cases_head with heq | ⟨m, hstep, -⟩
    · cases heq
      exact Or.inl hq
    · exact absurd hq (hstep.2 q rfl)
  | @target following q m t _ hm _ ih =>
    intro r hr
    have hpath : ReflTransGen (Around find compositions (q.target :: following)) m (.reference r) ∨
        r.target = q.target := by
      rcases hr.cases_head with heq | ⟨m', hstep, hrest⟩
      · cases heq
        exact Or.inr rfl
      · cases hstep.1 with
        | child hm' => cases hm'
        | target hm' =>
          obtain rfl := Except.ok.inj (hm.symm.trans hm')
          -- A path that comes back to the reference goes on from the same target.
          rcases Around.cons q.target hrest with h | ⟨m'', hm'', h⟩
          · exact Or.inl h
          · obtain rfl := Except.ok.inj (hm.symm.trans hm'')
            exact Or.inl h
    rcases hpath with hpath | heq
    · rcases ih r hpath with hmem | hfound
      · rcases List.mem_cons.mp hmem with heq | hmem
        · exact Or.inr ⟨m, heq ▸ hm⟩
        · exact Or.inl hmem
      · exact Or.inr hfound
    · exact Or.inr ⟨m, heq ▸ hm⟩
  | @layer following n l ts hl hlen _ ih =>
    intro r hr
    rcases hr.cases_head with rfl | ⟨m, hstep, hrest⟩
    · cases hl
    · cases hstep.1 with
      | child hm =>
        obtain ⟨t, ht⟩ := exists_zip_left hlen (children_of_layer? hl ▸ hm)
        exact ih (m, t) ht r hrest
      | target => cases hl

end

/-! ### Parts of a type -/

section

variable {compositions : Bool} {n : Node} {l : Layer} {ts : List TypeExpr}

/-- The type that stands in for a schema within itself is no part of what the keyword `type`
names. -/
theorem not_partOf_scalarType (name : String) : ¬ PartOf .circular (scalarType name) := by
  unfold scalarType
  split_ifs <;> simp [TypeExpr.circular, TypeExpr.string, TypeExpr.number, TypeExpr.boolean,
    TypeExpr.any, partOf_prim]

/-- Nor is it a part of the type of a schema in which nothing is looked into. -/
theorem not_partOf_leaf {t : TypeExpr} (hl : layer? compositions n = some (.leaf t)) :
    ¬ PartOf .circular t := by
  obtain _ | ⟨k, items, properties, allOf, oneOf, anyOf, extras⟩ := n
  · cases hl
  have hl := Option.some.inj hl
  rcases layer_cases compositions k items properties allOf oneOf anyOf with
    ⟨l, -, hc, heq⟩ | ⟨-, heq⟩
  · exact absurd (hc.trans (congrArg some (heq.symm.trans hl))) composition?_ne_leaf
  · rcases typed_eq_leaf (heq.symm.trans hl) with rfl | rfl | ⟨name, rfl⟩
    · simp [TypeExpr.circular, TypeExpr.any, partOf_array, partOf_prim]
    · simp [TypeExpr.circular, TypeExpr.any, partOf_map, partOf_prim]
    · exact not_partOf_scalarType name

/-- A record has the types of its properties. -/
theorem map_type_zipWith {required : List String} {ps : List (String × Node)}
    (hlen : ps.length = ts.length) :
    (List.zipWith (member required) ps ts).map Member.type = ts := by
  rw [List.map_zipWith]
  exact List.map_zip_eq_zipWith.symm.trans (List.map_snd_zip hlen.ge)

/-- The type that stands in is a part of a type if and only if it is one of those of its parts. -/
theorem partOf_assemble (hl : layer? compositions n = some l)
    (hlen : l.parts.length = ts.length) :
    PartOf .circular (l.assemble ts) ↔ ∃ t ∈ ts, PartOf .circular t := by
  -- A composition of one type is that type, which has the same parts.
  have hcomposed : ∀ combine : List TypeExpr → TypeExpr,
      (PartOf .circular (combine ts) ↔ ∃ t ∈ ts, PartOf .circular t) →
      (PartOf .circular (composed combine ts) ↔ ∃ t ∈ ts, PartOf .circular t) := by
    intro combine h
    unfold composed
    split
    · simp
    · exact h
  cases l with
  | leaf t =>
    obtain rfl := List.length_eq_zero_iff.mp hlen.symm
    simpa [Layer.assemble] using not_partOf_leaf hl
  | array e =>
    obtain ⟨t, rfl⟩ := List.length_eq_one_iff.mp hlen.symm
    rw [Layer.assemble, List.headD_cons, TypeExpr.circular, partOf_array]
    simp
  | record required ps =>
    rw [Layer.parts, List.length_map] at hlen
    rw [Layer.assemble, TypeExpr.circular, partOf_record, map_type_zipWith hlen]
  | union ms => exact hcomposed .union partOf_union
  | inter ms => exact hcomposed .inter partOf_inter

end

/-! ### Cycles -/

/-- A type of a node in which every reference is replaced by the type of its target. -/
inductive Expands (find : Finder) (compositions : Bool) : Node → TypeExpr → Prop
  | target {r : Description.Reference} {m : Node} {t : TypeExpr} (hm : find r.target = .ok m)
      (ht : Expands find compositions m t) : Expands find compositions (.reference r) t
  | layer {n : Node} {l : Layer} {ts : List TypeExpr} (hl : layer? compositions n = some l)
      (hlen : l.parts.length = ts.length)
      (hts : ∀ q ∈ l.parts.zip ts, Expands find compositions q.1 q.2) :
      Expands find compositions n (l.assemble ts)

section

variable {find : Finder} {compositions : Bool} {following : List String} {n : Node} {t : TypeExpr}

/-- Where the type that stands in comes up, a reference is met that is being followed or leads back
to itself. -/
theorem Yields.meets_of_partOf (h : Yields find compositions following n t)
    (hpart : PartOf .circular t) :
    ∃ ref, Meets find compositions n ref ∧
      (ref ∈ following ∨ Returns find compositions ref) := by
  induction h with
  | @again _ r hr => exact ⟨r.target, .self r, Or.inl hr⟩
  | @target following r m _ _ hm _ ih =>
    obtain ⟨ref, href, hmem | hret⟩ := ih hpart
    · rcases List.mem_cons.mp hmem with rfl | hmem
      · exact ⟨r.target, .self r, Or.inr ⟨m, hm, href⟩⟩
      · exact ⟨ref, href.head (.target hm), Or.inl hmem⟩
    · exact ⟨ref, href.head (.target hm), Or.inr hret⟩
  | @layer _ n l ts hl hlen _ ih =>
    obtain ⟨t, ht, hpart⟩ := (partOf_assemble hl hlen).mp hpart
    obtain ⟨m, hm⟩ := exists_zip_right hlen ht
    obtain ⟨ref, href, hor⟩ := ih (m, t) hm hpart
    have hm : m ∈ children compositions n :=
      (children_of_layer? hl).symm ▸ (List.of_mem_zip hm).1
    exact ⟨ref, href.head (.child hm), hor⟩

/-- Where it does not come up, no reference is met that is being followed or leads back to
itself. -/
theorem Yields.not_returns (h : Yields find compositions following n t)
    (hpart : ¬ PartOf .circular t) :
    ∀ ref, Meets find compositions n ref →
      ref ∉ following ∧ ¬ Returns find compositions ref := by
  induction h with
  | again => exact absurd .refl hpart
  | @target following r m _ hr hm _ ih =>
    intro ref href
    have ih := ih hpart
    rcases href.of_target hm with rfl | href
    · refine ⟨hr, ?_⟩
      -- Below the reference it is being followed, and is not met again.
      rintro ⟨m', hm', hback⟩
      obtain rfl := Except.ok.inj (hm.symm.trans hm')
      exact (ih r.target hback).1 (List.mem_cons_self ..)
    · obtain ⟨hnot, hret⟩ := ih ref href
      exact ⟨fun hmem => hnot (List.mem_cons_of_mem _ hmem), hret⟩
  | @layer _ n l ts hl hlen _ ih =>
    intro ref href
    obtain ⟨m, hm, href⟩ := href.of_layer hl
    obtain ⟨t, ht⟩ := exists_zip_left hlen hm
    refine ih (m, t) ht (fun hpart' => hpart ?_) ref href
    exact (partOf_assemble hl hlen).mpr ⟨t, (List.of_mem_zip ht).2, hpart'⟩

/-- Where it does not come up, every reference is replaced. -/
theorem Yields.expands (h : Yields find compositions following n t)
    (hpart : ¬ PartOf .circular t) : Expands find compositions n t := by
  induction h with
  | again => exact absurd .refl hpart
  | target _ hm _ ih => exact .target hm (ih hpart)
  | layer hl hlen _ ih =>
    refine .layer hl hlen fun q hq => ih q hq fun hpart' => hpart ?_
    exact (partOf_assemble hl hlen).mpr ⟨q.2, (List.of_mem_zip hq).2, hpart'⟩

end

/-! ### The synthesis -/

theorem around_nil {find : Finder} {compositions : Bool} {n p : Node}
    (h : ReflTransGen (LooksInto find compositions) n p) :
    ReflTransGen (Around find compositions []) n p :=
  ReflTransGen.mono (fun _ _ hstep => ⟨hstep, fun _ _ => List.not_mem_nil⟩) n p h

/-- **The synthesis fails if and only if it meets a broken reference**: neither does it leave one
out that lies behind a reference being followed, nor does it fail for one that is not looked at. -/
theorem typeOf_fails_iff (root : Fields) (compositions : Bool) (n : Node) (s : Session) :
    (∃ e, (typeOf root compositions n s).1 = .error e) ↔
      ∃ ref, Meets (s.find root) compositions n ref ∧ ∃ e, s.find root ref = .error e := by
  constructor
  · rintro ⟨e, he⟩
    have hfails : Fails (s.find root) compositions [] n e := (outcome_typeOf s n _).mp he
    obtain ⟨ref, href, he⟩ := hfails.meets
    exact ⟨ref, href, e, he⟩
  · rintro ⟨ref, ⟨r, hr, rfl⟩, e, he⟩
    cases hres : (typeOf root compositions n s).1 with
    | error e' => exact ⟨e', rfl⟩
    | ok t =>
      have hyields : Yields (s.find root) compositions [] n t := (outcome_typeOf s n _).mp hres
      rcases hyields.found r (around_nil hr) with hmem | ⟨m, hm⟩
      · cases hmem
      · cases he.symm.trans hm

/-- **The type that stands in for a schema within itself comes up if and only if a reference is met
that leads back to itself.**  Where no such reference is met, every reference is replaced by its
target, however often and wherever it comes up. -/
theorem circular_iff_returns (root : Fields) (compositions : Bool) (n : Node) (s : Session)
    (t : TypeExpr) (ht : (typeOf root compositions n s).1 = .ok t) :
    (PartOf .circular t ↔ ∃ ref, Meets (s.find root) compositions n ref ∧
        Returns (s.find root) compositions ref) ∧
      ((¬ ∃ ref, Meets (s.find root) compositions n ref ∧
        Returns (s.find root) compositions ref) → Expands (s.find root) compositions n t) := by
  have hyields : Yields (s.find root) compositions [] n t := (outcome_typeOf s n _).mp ht
  have hiff : PartOf .circular t ↔ ∃ ref, Meets (s.find root) compositions n ref ∧
      Returns (s.find root) compositions ref := by
    constructor
    · intro hpart
      obtain ⟨ref, href, hmem | hret⟩ := hyields.meets_of_partOf hpart
      · cases hmem
      · exact ⟨ref, href, hret⟩
    · rintro ⟨ref, href, hret⟩
      by_contra hpart
      exact (hyields.not_returns hpart ref href).2 hret
  exact ⟨hiff, fun hnone => hyields.expands (mt hiff.mp hnone)⟩

/-- The schema of `linked`. -/
def chainSchema : Node :=
  .schema ⟨none, none, some (.one "object"), none, none, none, none, none⟩ none
    (some [("next", chain)]) none none none []

theorem target_linked : target linked chainText = .ok chainSchema :=
  target_eq_ok.mpr ⟨_, rfl, rfl, rfl⟩

/-- The type of a schema that refers to itself. -/
theorem typeOf_linked :
    (typeOf linked true chain .fresh).1 = .ok (.record [⟨"next", .circular, true⟩]) := by
  have hfind : Session.fresh.find linked chainText = .ok chainSchema :=
    (congrFun (faithful_fresh linked) chainText).trans target_linked
  refine (outcome_typeOf _ _ _).mpr (Yields.target (m := chainSchema) (by simp) hfind ?_)
  have hlayer : Yields (Session.fresh.find linked) true [chainText] chainSchema
      ((Layer.record [] [("next", chain)]).assemble [.circular]) := by
    refine .layer rfl rfl fun q hq => ?_
    obtain rfl := List.mem_singleton.mp hq
    exact .again (List.mem_singleton_self _)
  exact hlayer

theorem circular_iff_returns_linked :
    (typeOf linked true chain .fresh).1 = .ok (.record [⟨"next", .circular, true⟩]) ∧
      ∃ ref, Meets (Session.fresh.find linked) true chain ref ∧
        Returns (Session.fresh.find linked) true ref := by
  refine ⟨typeOf_linked, ?_⟩
  refine (circular_iff_returns linked true chain .fresh _ typeOf_linked).1.mp ?_
  exact .record (List.mem_singleton_self _) .refl

end ServerActions.Reference
