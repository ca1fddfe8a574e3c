import Mathlib.Data.Finset.Card
import Mathlib.Data.List.Forall2
import ServerActions.Proofs.Reference.Occurrence
import ServerActions.Proofs.Reference.Session

/-!
# Derivations of types

The synthesis as rules, without a bound and without a session: how a node yields a type, or fails,
while some references are being followed.  A derivation is a finite tree, and each of its branches
is a branch of the recursion.

The function that computes the type goes down at most a number of references.  That number is never
used up, because the references being followed are distinct and are all among those of the node, of
the schemas remembered and of the description; so the function computes what the rules derive.

## Main definitions

* `Yields`, `Fails` — a node yields a type, or fails.
* `Outcome` — both, as a property of a result.

## Main results

* `Outcome.unique` — a node has one outcome.
* `outcome_typeOf` — the result of the synthesis is the outcome of the node.
-/

namespace ServerActions.Reference

open Description (Node)
open TypeScript (TypeExpr)

/-! ### Rules -/

/-- A node yields a type while the references in `following` are being followed. -/
inductive Yields (find : Finder) (compositions : Bool) : List String → Node → TypeExpr → Prop
  /-- A reference that is being followed already. -/
  | again {following : List String} {r : Description.Reference} (hr : r.target ∈ following) :
      Yields find compositions following (.reference r) .circular
  /-- A reference that is followed. -/
  | target {following : List String} {r : Description.Reference} {m : Node} {t : TypeExpr}
      (hr : r.target ∉ following) (hm : find r.target = .ok m)
      (ht : Yields find compositions (r.target :: following) m t) :
      Yields find compositions following (.reference r) t
  /-- A schema, from the types of the nodes that are looked into. -/
  | layer {following : List String} {n : Node} {l : Layer} {ts : List TypeExpr}
      (hl : layer? compositions n = some l) (hlen : l.parts.length = ts.length)
      (hts : ∀ q ∈ l.parts.zip ts, Yields find compositions following q.1 q.2) :
      Yields find compositions following n (l.assemble ts)

/-- A node fails while the references in `following` are being followed. -/
inductive Fails (find : Finder) (compositions : Bool) : List String → Node → Failure → Prop
  /-- A reference for which there is no schema. -/
  | broken {following : List String} {r : Description.Reference} {e : Failure}
      (hr : r.target ∉ following) (he : find r.target = .error e) :
      Fails find compositions following (.reference r) e
  /-- A reference that is followed. -/
  | target {following : List String} {r : Description.Reference} {m : Node} {e : Failure}
      (hr : r.target ∉ following) (hm : find r.target = .ok m)
      (he : Fails find compositions (r.target :: following) m e) :
      Fails find compositions following (.reference r) e
  /-- A schema, at the first of the nodes looked into that fails. -/
  | layer {following : List String} {n : Node} {l : Layer} {before after : List Node} {m : Node}
      {e : Failure} (hl : layer? compositions n = some l) (hparts : l.parts = before ++ m :: after)
      (hbefore : ∀ b ∈ before, ∃ t, Yields find compositions following b t)
      (he : Fails find compositions following m e) :
      Fails find compositions following n e

/-- The result is what the node yields, or how it fails. -/
def Outcome (find : Finder) (compositions : Bool) (following : List String) (n : Node) :
    Except Failure TypeExpr → Prop
  | .ok t => Yields find compositions following n t
  | .error e => Fails find compositions following n e

/-- The results are what the nodes yield one after the other, or how the first of them fails that
does. -/
def PartsOutcome (find : Finder) (compositions : Bool) (following : List String)
    (ns : List Node) : Except Failure (List TypeExpr) → Prop
  | .ok ts => List.Forall₂ (Yields find compositions following) ns ts
  | .error e => ∃ before m after, ns = before ++ m :: after ∧
      (∀ b ∈ before, ∃ t, Yields find compositions following b t) ∧
      Fails find compositions following m e

section

variable {find : Finder} {compositions : Bool} {following : List String}

/-! ### Outcomes by the form of the node -/

section

variable {r : Description.Reference} {res : Except Failure TypeExpr}

theorem outcome_again (hr : r.target ∈ following) :
    Outcome find compositions following (.reference r) res ↔ res = .ok .circular := by
  constructor
  · intro h
    cases res with
    | ok t =>
      cases h with
      | again => rfl
      | target hr' => exact absurd hr hr'
      | layer hl => cases hl
    | error e =>
      cases h with
      | broken hr' => exact absurd hr hr'
      | target hr' => exact absurd hr hr'
      | layer hl => cases hl
  · rintro rfl
    exact .again hr

theorem outcome_broken {e : Failure} (hr : r.target ∉ following)
    (he : find r.target = .error e) :
    Outcome find compositions following (.reference r) res ↔ res = .error e := by
  constructor
  · intro h
    cases res with
    | ok t =>
      cases h with
      | again hr' => exact absurd hr' hr
      | target _ hm => cases he.symm.trans hm
      | layer hl => cases hl
    | error e' =>
      cases h with
      | broken _ he' => rw [Except.error.inj (he.symm.trans he')]
      | target _ hm => cases he.symm.trans hm
      | layer hl => cases hl
  · rintro rfl
    exact .broken hr he

theorem outcome_target {m : Node} (hr : r.target ∉ following) (hm : find r.target = .ok m) :
    Outcome find compositions following (.reference r) res
      ↔ Outcome find compositions (r.target :: following) m res := by
  constructor
  · intro h
    cases res with
    | ok t =>
      cases h with
      | again hr' => exact absurd hr' hr
      | target _ hm' ht => rwa [Except.ok.inj (hm.symm.trans hm')]
      | layer hl => cases hl
    | error e =>
      cases h with
      | broken _ he => cases hm.symm.trans he
      | target _ hm' he => rwa [Except.ok.inj (hm.symm.trans hm')]
      | layer hl => cases hl
  · intro h
    cases res with
    | ok t => exact .target hr hm h
    | error e => exact .target hr hm h

theorem outcome_layer {n : Node} {l : Layer} (hl : layer? compositions n = some l) :
    Outcome find compositions following n res
      ↔ ∃ p, PartsOutcome find compositions following l.parts p ∧ res = p.map l.assemble := by
  constructor
  · intro h
    cases res with
    | ok t =>
      cases h with
      | again => cases hl
      | target => cases hl
      | @layer _ _ l' ts hl' hlen hts =>
        obtain rfl := Option.some.inj (hl.symm.trans hl')
        exact ⟨.ok ts, List.forall₂_iff_zip.mpr ⟨hlen, fun hq => hts _ hq⟩, rfl⟩
    | error e =>
      cases h with
      | broken => cases hl
      | target => cases hl
      | @layer _ _ l' before after m _ hl' hparts hbefore he =>
        obtain rfl := Option.some.inj (hl.symm.trans hl')
        exact ⟨.error e, ⟨before, m, after, hparts, hbefore, he⟩, rfl⟩
  · rintro ⟨p, hp, rfl⟩
    cases p with
    | ok ts =>
      obtain ⟨hlen, hts⟩ := List.forall₂_iff_zip.mp hp
      exact .layer hl hlen fun q hq => hts (a := q.1) (b := q.2) hq
    | error e =>
      obtain ⟨before, m, after, hparts, hbefore, he⟩ := hp
      exact .layer hl hparts hbefore he

end

/-! ### One outcome -/

section

variable {α β : Type} {as : List α} {bs : List β}

/-- Each member on the left of lists of one length has one on the right. -/
theorem exists_zip_left (hlen : as.length = bs.length) {a : α} (ha : a ∈ as) :
    ∃ b, (a, b) ∈ as.zip bs := by
  rw [← List.map_fst_zip hlen.le] at ha
  obtain ⟨q, hq, rfl⟩ := List.mem_map.mp ha
  exact ⟨q.2, hq⟩

/-- And each member on the right has one on the left. -/
theorem exists_zip_right (hlen : as.length = bs.length) {b : β} (hb : b ∈ bs) :
    ∃ a, (a, b) ∈ as.zip bs := by
  rw [← List.map_snd_zip hlen.ge] at hb
  obtain ⟨q, hq, rfl⟩ := List.mem_map.mp hb
  exact ⟨q.1, hq⟩

end

theorem PartsOutcome.eq_ok {ns : List Node} {ts : List TypeExpr}
    (h : List.Forall₂
      (fun n t => ∀ res, Outcome find compositions following n res → res = .ok t) ns ts)
    {p : Except Failure (List TypeExpr)} (hp : PartsOutcome find compositions following ns p) :
    p = .ok ts := by
  cases p with
  | ok us =>
    refine congrArg Except.ok ?_
    induction h generalizing us with
    | nil => exact List.forall₂_nil_left_iff.mp hp
    | @cons n t ns ts ht hts ih =>
      obtain ⟨u, us', hu, hus, rfl⟩ := List.forall₂_cons_left_iff.mp hp
      rw [Except.ok.inj (ht (.ok u) hu), ih us' hus]
  | error e =>
    obtain ⟨before, m, after, rfl, -, he⟩ := hp
    -- The node that fails has a type as well.
    obtain ⟨t, -, ht⟩ := exists_of_forall₂ h (List.mem_append_right before (List.mem_cons_self ..))
    cases ht (.error e) he

/-- A node that yields a type has no other outcome. -/
theorem Yields.outcome_eq {n : Node} {t : TypeExpr}
    (h : Yields find compositions following n t) :
    ∀ res, Outcome find compositions following n res → res = .ok t := by
  induction h with
  | again hr => exact fun res => (outcome_again hr).mp
  | target hr hm _ ih => exact fun res hres => ih res ((outcome_target hr hm).mp hres)
  | layer hl hlen _ ih =>
    intro res hres
    obtain ⟨p, hp, rfl⟩ := (outcome_layer hl).mp hres
    rw [PartsOutcome.eq_ok (List.forall₂_iff_zip.mpr ⟨hlen, fun hq => ih _ hq⟩) hp]
    rfl

/-- A node that fails has no other outcome. -/
theorem Fails.outcome_eq {n : Node} {e : Failure} (h : Fails find compositions following n e) :
    ∀ res, Outcome find compositions following n res → res = .error e := by
  induction h with
  | broken hr he => exact fun res => (outcome_broken hr he).mp
  | target hr hm _ ih => exact fun res hres => ih res ((outcome_target hr hm).mp hres)
  | @layer following n l before after m e hl hparts hbefore he ih =>
    intro res hres
    obtain ⟨p, hp, rfl⟩ := (outcome_layer hl).mp hres
    rw [hparts] at hp
    cases p with
    | ok ts =>
      obtain ⟨t, -, ht⟩ :=
        exists_of_forall₂ hp (List.mem_append_right before (List.mem_cons_self ..))
      cases ih (.ok t) ht
    | error e' =>
      obtain ⟨before', m', after', heq, hbefore', he'⟩ := hp
      -- A node before the one that fails yields a type, so both fail at the same node.
      rcases List.append_eq_append_iff.mp heq with ⟨as, hb, hm⟩ | ⟨as, hb, hm⟩
      · cases as with
        | nil =>
          obtain ⟨rfl, -⟩ := List.cons.inj hm
          exact ih (.error e') he'
        | cons a as =>
          obtain ⟨rfl, -⟩ := List.cons.inj hm
          obtain ⟨t, ht⟩ := hbefore' m (by simp [hb])
          cases ih (.ok t) ht
      · cases as with
        | nil =>
          obtain ⟨rfl, -⟩ := List.cons.inj hm
          exact ih (.error e') he'
        | cons a as =>
          obtain ⟨rfl, -⟩ := List.cons.inj hm
          obtain ⟨t, ht⟩ := hbefore m' (by simp [hb])
          cases ht.outcome_eq (.error e') he'

/-- **A node has one outcome.** -/
theorem Outcome.unique {n : Node} {res res' : Except Failure TypeExpr}
    (h : Outcome find compositions following n res)
    (h' : Outcome find compositions following n res') : res = res' := by
  cases res with
  | ok t => exact (Yields.outcome_eq h res' h').symm
  | error e => exact (Fails.outcome_eq h res' h').symm

end

/-! ### The synthesis -/

section

variable {find : Finder} {compositions : Bool} {following : List String}

/-- The types of nodes, when the type of each of them is its outcome. -/
theorem keeps_typesWith {follow : String → Run TypeExpr} {I : Session → Prop} (ns : List Node)
    (h : ∀ n ∈ ns, Run.Keeps I (typeWith follow compositions n)
      (Outcome find compositions following n)) :
    Run.Keeps I (typesWith follow compositions ns)
      (PartsOutcome find compositions following ns) := by
  induction ns with
  | nil => exact .pure List.Forall₂.nil
  | cons n ns ih =>
    rw [typesWith_cons]
    have hns := ih fun m hm => h m (List.mem_cons_of_mem _ hm)
    refine (h n (List.mem_cons_self ..)).bind (fun t ht => ?_) fun e he => ?_
    · refine hns.bind (fun ts hts => .pure (List.Forall₂.cons ht hts)) fun e he => ?_
      obtain ⟨before, m, after, rfl, hbefore, he⟩ := he
      refine ⟨n :: before, m, after, rfl, fun b hb => ?_, he⟩
      rcases List.mem_cons.mp hb with rfl | hb
      · exact ⟨t, ht⟩
      · exact hbefore b hb
    · exact ⟨[], n, ns, rfl, by simp, he⟩

/-- The type of a node is its outcome, when that holds for the references in it. -/
theorem keeps_typeWith {follow : String → Run TypeExpr} {I : Session → Prop} (n : Node)
    (h : ∀ r : Description.Reference, r.target ∈ nodeRefs n →
      Run.Keeps I (follow r.target) (Outcome find compositions following (.reference r))) :
    Run.Keeps I (typeWith follow compositions n) (Outcome find compositions following n) := by
  induction n using node_induction compositions with
  | h n ih =>
    cases hl : layer? compositions n with
    | none =>
      obtain ⟨r, rfl⟩ := eq_reference_of_layer? hl
      rw [typeWith]
      exact h r (List.mem_singleton_self _)
    | some l =>
      rw [typeWith_of_layer? follow compositions hl]
      have hparts : ∀ m ∈ l.parts, Run.Keeps I (typeWith follow compositions m)
          (Outcome find compositions following m) := by
        intro m hm
        have hm : m ∈ children compositions n := by rwa [children_of_layer? hl]
        exact ih m hm fun r hr => h r (nodeRefs_subset_of_mem_children hm hr)
      exact (keeps_typesWith l.parts hparts).map fun p hp => (outcome_layer hl).mpr ⟨p, hp, rfl⟩

end

section

variable {root : Fields} {find : Finder} {compositions : Bool}

/-- **The bound on the references followed is never used up.**  The references being followed are
distinct and lie in a set `texts` that no schema found leaves, so the bound reaches zero only when
all of that set is being followed. -/
theorem keeps_typeOfRef {texts : Finset String}
    (hclosed : ∀ ref m, find ref = .ok m → ∀ x ∈ nodeRefs m, x ∈ texts) (bound : ℕ) :
    ∀ (following : List String) (r : Description.Reference), following.Nodup →
      (∀ x ∈ following, x ∈ texts) → r.target ∈ texts → texts.card ≤ bound + following.length →
      Run.Keeps (fun s => s.find root = find) (typeOfRef root compositions bound following r.target)
        (Outcome find compositions following (.reference r)) := by
  induction bound with
  | zero =>
    intro following r hnodup hsub hr hcard
    -- As many references are being followed as there are texts, so this one is among them.
    have hall : following.toFinset = texts := by
      refine Finset.eq_of_subset_of_card_le (fun x hx => hsub x (List.mem_toFinset.mp hx)) ?_
      rw [List.toFinset_card_of_nodup hnodup]
      omega
    have hmem : r.target ∈ following := List.mem_toFinset.mp (hall ▸ hr)
    exact (keeps_cut r.target).mono fun res hres => (outcome_again hmem).mpr hres
  | succ bound ih =>
    intro following r hnodup hsub hr hcard
    rw [typeOfRef]
    by_cases hmem : r.target ∈ following
    · rw [if_pos hmem]
      exact (keeps_cut r.target).mono fun res hres => (outcome_again hmem).mpr hres
    · rw [if_neg hmem]
      refine (keeps_schema r.target).bind (fun m hm => ?_) fun e he => ?_
      · refine (keeps_typeWith m fun r' hr' => ?_).mono fun res hres =>
          (outcome_target hmem hm.symm).mpr hres
        refine ih (r.target :: following) r' (List.nodup_cons.mpr ⟨hmem, hnodup⟩) ?_
          (hclosed _ _ hm.symm _ hr') ?_
        · intro x hx
          rcases List.mem_cons.mp hx with rfl | hx
          · exact hr
          · exact hsub x hx
        · rw [List.length_cons]
          omega
      · exact (outcome_broken hmem he.symm).mpr rfl

/-- The references of what a session finds are those of a schema remembered or of the
description. -/
theorem nodeRefs_of_find {s : Session} {ref : String} {m : Node} (h : s.find root ref = .ok m)
    {x : String} (hx : x ∈ nodeRefs m) :
    (x ∈ s.memo.flatMap fun p => nodeRefs p.2) ∨ x ∈ refsInFields root := by
  rcases mem_memo_or_target_of_find h with hmem | ht
  · exact Or.inl (List.mem_flatMap.mpr ⟨(ref, m), hmem, hx⟩)
  · exact Or.inr (nodeRefs_of_target ht hx)

theorem keeps_typeOf (s : Session) (n : Node) :
    Outcome (s.find root) compositions [] n (typeOf root compositions n s).1 ∧
      (typeOf root compositions n s).2.find root = s.find root := by
  -- The texts that can come up: in the node, in the schemas remembered and in the description.
  let texts := nodeRefs n ++ (s.memo.flatMap fun p => nodeRefs p.2) ++ refsInFields root
  have hcard : texts.toFinset.card ≤ refBound root s.memo n + ([] : List String).length := by
    refine (List.toFinset_card_le texts).trans ?_
    simp only [texts, refBound, List.length_append]
    exact le_rfl
  have hclosed : ∀ ref m, s.find root ref = .ok m → ∀ x ∈ nodeRefs m, x ∈ texts.toFinset := by
    intro ref m hm x hx
    have := nodeRefs_of_find hm hx
    simp only [texts, List.mem_toFinset, List.mem_append]
    tauto
  refine keeps_typeWith (I := fun s' => s'.find root = s.find root) n (fun r hr => ?_) s rfl
  refine keeps_typeOfRef hclosed _ [] r List.nodup_nil (by simp) ?_ hcard
  simp only [texts, List.mem_toFinset, List.mem_append]
  exact Or.inl (Or.inl hr)

/-- **The result of the synthesis is the outcome of the node**, whatever the session remembers. -/
theorem outcome_typeOf (s : Session) (n : Node) (res : Except Failure TypeExpr) :
    (typeOf root compositions n s).1 = res ↔ Outcome (s.find root) compositions [] n res := by
  constructor
  · rintro rfl
    exact (keeps_typeOf s n).1
  · exact (keeps_typeOf s n).1.unique

/-- The synthesis changes nothing of what is found. -/
theorem find_typeOf (s : Session) (n : Node) :
    (typeOf root compositions n s).2.find root = s.find root :=
  (keeps_typeOf s n).2

/-- The result of the synthesis is the same in all sessions that find what the description has. -/
theorem typeOf_of_faithful {s : Session} (h : Faithful root s) (n : Node) :
    (typeOf root compositions n s).1 = (typeOf root compositions n .fresh).1 := by
  -- Both results are the outcome for what the description has, which speaks of no session.
  rw [outcome_typeOf, h, ← faithful_fresh root]
  exact (outcome_typeOf .fresh n _).mp rfl

theorem faithful_typeOf {s : Session} (h : Faithful root s) (n : Node) :
    Faithful root (typeOf root compositions n s).2 :=
  (find_typeOf s n).trans h

end

end ServerActions.Reference
