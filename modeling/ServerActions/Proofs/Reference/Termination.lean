import Mathlib.Data.Prod.Lex
import Mathlib.Logic.Relation
import ServerActions.Proofs.Reference.Derivation

/-!
# The synthesis ends

Going from a node to those that are looked into makes the node smaller, and going from a reference
to its target makes the references that are not being followed fewer.  The second needs that a
target brings up no text but those of the description, whatever way its references run: to itself,
to one another, into the middle of another schema, or to one place by different spellings.

## Main definitions

* `Visit`, `Calls` — a place in the recursion, and the places called from it.
* `texts` — the distinct texts of references in a description and a node.

## Main results

* `Calls.acc` — no branch of the recursion goes on forever.
* `typeOf_ends` — the synthesis comes to its outcome, and never follows more references at once than
  there are texts.
-/

namespace ServerActions.Reference

open Description (Node referenceKey)
open TypeScript (TypeExpr)

/-- A place in the recursion: the references that are being followed, and the node at hand. -/
structure Visit where
  following : List String
  node : Node

/-- The visits that a visit calls, as long as none of them fails. -/
inductive Calls (find : Finder) (compositions : Bool) : Visit → Visit → Prop
  /-- A node that is looked into. -/
  | child {following : List String} {n m : Node} (hm : m ∈ children compositions n) :
      Calls find compositions ⟨following, n⟩ ⟨following, m⟩
  /-- The target of a reference that is not being followed. -/
  | target {following : List String} {r : Description.Reference} {m : Node}
      (hr : r.target ∉ following) (hm : find r.target = .ok m) :
      Calls find compositions ⟨following, .reference r⟩ ⟨r.target :: following, m⟩

/-- The distinct texts of references that occur in a description and in a node. -/
def texts (root : Fields) (n : Node) : Finset String :=
  (nodeRefs n ++ refsInFields root).toFinset

/-! ### The invariant of a visit -/

/-- The references being followed are distinct, and these and those of the node are among
`known`. -/
structure Visit.Within (known : Finset String) (v : Visit) : Prop where
  nodup : v.following.Nodup
  following : ∀ x ∈ v.following, x ∈ known
  node : ∀ x ∈ nodeRefs v.node, x ∈ known

section

variable {find : Finder} {compositions : Bool} {known : Finset String} {v w : Visit}

theorem Visit.Within.length_le (hv : v.Within known) : v.following.length ≤ known.card := by
  rw [← List.toFinset_card_of_nodup hv.nodup]
  exact Finset.card_le_card fun x hx => hv.following x (List.mem_toFinset.mp hx)

/-- A call keeps the invariant. -/
theorem Visit.Within.calls
    (hclosed : ∀ ref m, find ref = .ok m → ∀ x ∈ nodeRefs m, x ∈ known)
    (hv : v.Within known) (h : Calls find compositions v w) : w.Within known := by
  cases h with
  | child hm =>
    exact ⟨hv.nodup, hv.following, fun x hx =>
      hv.node x (nodeRefs_subset_of_mem_children hm hx)⟩
  | target hr hm =>
    refine ⟨List.nodup_cons.mpr ⟨hr, hv.nodup⟩, fun x hx => ?_, hclosed _ _ hm⟩
    rcases List.mem_cons.mp hx with rfl | hx
    · exact hv.node _ (List.mem_singleton_self _)
    · exact hv.following x hx

/-- And so do all the calls on a branch. -/
theorem Visit.Within.branch
    (hclosed : ∀ ref m, find ref = .ok m → ∀ x ∈ nodeRefs m, x ∈ known)
    (hv : v.Within known) (h : Relation.ReflTransGen (Calls find compositions) v w) :
    w.Within known := by
  induction h with
  | refl => exact hv
  | tail _ hstep ih => exact ih.calls hclosed hstep

/-! ### The measure -/

/-- How many texts are not being followed, and the size of the node. -/
noncomputable def Visit.measure (known : Finset String) (v : Visit) : ℕ × ℕ :=
  (known.card - v.following.length, sizeOf v.node)

/-- A call makes the measure smaller: the texts left, or else the node. -/
theorem Calls.measure_lt (hw : w.Within known) (h : Calls find compositions v w) :
    Prod.Lex (· < ·) (· < ·) (w.measure known) (v.measure known) := by
  cases h with
  | child hm => exact Prod.Lex.right _ (sizeOf_lt_of_mem_children hm)
  | @target following r m hr hm =>
    refine Prod.Lex.left _ _ ?_
    have hle : following.length + 1 ≤ known.card := hw.length_le
    simp only [List.length_cons]
    omega

/-- **No branch goes on forever.** -/
theorem Calls.acc (hclosed : ∀ ref m, find ref = .ok m → ∀ x ∈ nodeRefs m, x ∈ known)
    (hv : v.Within known) : Acc (flip (Calls find compositions)) v := by
  have hwf : WellFounded (InvImage (Prod.Lex (· < ·) (· < ·)) (Visit.measure known)) :=
    InvImage.wf _ (WellFounded.prod_lex Nat.lt_wfRel.wf Nat.lt_wfRel.wf)
  -- The invariant bounds the first part of the measure, so it goes along with the induction.
  induction v using hwf.induction with
  | _ v ih =>
    refine Acc.intro v fun w hcall => ?_
    have hw := hv.calls hclosed hcall
    exact ih w (Calls.measure_lt hw hcall) hw

end

/-! ### The synthesis -/

section

variable {root : Fields} {compositions : Bool}

theorem mem_texts_of_target {n : Node} :
    ∀ ref m, target root ref = .ok m → ∀ x ∈ nodeRefs m, x ∈ texts root n := by
  intro ref m hm x hx
  exact List.mem_toFinset.mpr (List.mem_append_right _ (nodeRefs_of_target hm hx))

theorem within_texts (n : Node) : (Visit.mk [] n).Within (texts root n) :=
  ⟨List.nodup_nil, by simp, fun _ hx => List.mem_toFinset.mpr (List.mem_append_left _ hx)⟩

/-- **The synthesis ends**, for every description and every node, in a session that finds what the
description has, and leaves such a session.  Its result is the outcome by rules that have no bound;
no branch of the recursion goes on forever; the references being followed at once are distinct and
never more than the texts of references in the description and the node; and with that many, or any
greater number, for its bound the recursion gives the same result. -/
theorem typeOf_ends (root : Fields) (compositions : Bool) (n : Node) (s : Session)
    (hs : Faithful root s) :
    Outcome (target root) compositions [] n (typeOf root compositions n s).1 ∧
      Faithful root (typeOf root compositions n s).2 ∧
      Acc (flip (Calls (target root) compositions)) ⟨[], n⟩ ∧
      (∀ v, Relation.ReflTransGen (Calls (target root) compositions) ⟨[], n⟩ v →
        v.following.Nodup ∧ v.following.length ≤ (texts root n).card) ∧
      ∀ bound, (texts root n).card ≤ bound →
        (typeWith (typeOfRef root compositions bound []) compositions n s).1
          = (typeOf root compositions n s).1 := by
  have hout : Outcome (target root) compositions [] n (typeOf root compositions n s).1 :=
    hs ▸ (outcome_typeOf s n _).mp rfl
  refine ⟨hout, faithful_typeOf hs n, Calls.acc mem_texts_of_target (within_texts n),
    fun v hv => ?_, ?_⟩
  · have hwithin := (within_texts n).branch mem_texts_of_target hv
    exact ⟨hwithin.nodup, hwithin.length_le⟩
  · intro bound hbound
    have hkeeps : Run.Keeps (fun s => s.find root = target root)
        (typeWith (typeOfRef root compositions bound []) compositions n)
        (Outcome (target root) compositions [] n) := by
      refine keeps_typeWith n fun r hr => ?_
      exact keeps_typeOfRef mem_texts_of_target bound [] r List.nodup_nil (by simp)
        ((within_texts n).node _ hr) (by simpa using hbound)
    exact (hkeeps s hs).1.unique hout

end

/-! ### A schema that refers to itself -/

/-- The reference to the only schema of `linked`. -/
def chainText : String := "#/components/schemas/Chain"

/-- A description whose schema refers to itself. -/
def linked : Fields :=
  [(.str "components", .map [(.str "schemas", .map [(.str "Chain", .map
    [(.str "type", .str "object"),
     (.str "properties", .map [(.str "next", .map [(.str referenceKey, .str chainText)])])])])])]

/-- A node that is the reference to the schema. -/
def chain : Node := .reference ⟨chainText, []⟩

theorem typeOf_ends_linked :
    Faithful linked (schema linked chainText .fresh).2 ∧
      Outcome (target linked) true [] chain
        (typeOf linked true chain (schema linked chainText .fresh).2).1 ∧
      ∀ v, Relation.ReflTransGen (Calls (target linked) true) ⟨[], chain⟩ v →
        v.following.length ≤ 1 := by
  have hs : Faithful linked (schema linked chainText .fresh).2 :=
    faithful_schema (faithful_fresh linked)
  have hcard : (texts linked chain).card = 1 := by decide
  obtain ⟨hout, -, -, hbranch, -⟩ := typeOf_ends linked true chain _ hs
  exact ⟨hs, hout, fun v hv => hcard ▸ (hbranch v hv).2⟩

end ServerActions.Reference
