import ServerActions.Proofs.Description.Rereading
import ServerActions.Proofs.Reference.Derivation

/-!
# The same types from nodes without empty entries

The synthesis looks at no further entries.  So where one function finds for each reference what
another one finds, without the further entries that have no value, both lead to the same types, and
to failures of the same references.

## Main definitions

* `Failure.Alike` — two failures are the same, or of the same reference.
* `Mirrors` — one function finds what another one finds, without the entries that have no value.

## Main results

* `layer?_tidy` — what is looked at in a node does not change.
* `Yields.mirror`, `Fails.mirror` — what is derived with the one function is derived with the other.
* `typeOf_mirror` — **a reference has the same type in both, or fails in both alike**.
-/

namespace ServerActions

/-- Two failures are the same, or of the same reference. -/
def Failure.Alike (e e' : Failure) : Prop :=
  e = e' ∨ ∃ ref why why', e = .reference ref why ∧ e' = .reference ref why'

theorem Failure.alike_reference (ref : String) (why why' : Option Reason) :
    (Failure.reference ref why).Alike (.reference ref why') :=
  Or.inr ⟨ref, why, why', rfl, rfl⟩

namespace Reference

open Description (Node Keywords givenExtras tidyProperty tidy_schema)
open TypeScript (TypeExpr)

/-! ### Layers -/

/-- What is looked at in a schema, without the further entries that have no value. -/
def Layer.tidy : Layer → Layer
  | .leaf t => .leaf t
  | .array n => .array n.tidy
  | .record required ps => .record required (ps.map tidyProperty)
  | .union ms => .union (ms.map Node.tidy)
  | .inter ms => .inter (ms.map Node.tidy)

theorem parts_tidy (l : Layer) : l.tidy.parts = l.parts.map Node.tidy := by
  cases l with
  | record required ps =>
    simp only [Layer.tidy, Layer.parts, List.map_map]
    rfl
  | _ => rfl

theorem assemble_tidy (l : Layer) (ts : List TypeExpr) : l.tidy.assemble ts = l.assemble ts := by
  cases l with
  | record required ps =>
    simp only [Layer.tidy, Layer.assemble, List.zipWith_map_left]
    rfl
  | _ => rfl

theorem composition?_tidy (allOf oneOf anyOf : Option (List Node)) :
    composition? (allOf.map (List.map Node.tidy)) (oneOf.map (List.map Node.tidy))
        (anyOf.map (List.map Node.tidy))
      = (composition? allOf oneOf anyOf).map Layer.tidy := by
  -- Whether a keyword has members is not changed.
  rcases oneOf with _ | _ | ⟨m, ms⟩ <;> rcases anyOf with _ | _ | ⟨m, ms⟩ <;>
    rcases allOf with _ | _ | ⟨m, ms⟩ <;> rfl

theorem typed_tidy (k : Keywords) (items : Option Node)
    (properties : Option (List (String × Node))) :
    typed k (items.map Node.tidy) (properties.map (List.map tidyProperty))
      = (typed k items properties).tidy := by
  unfold typed
  split
  · split_ifs
    · cases items <;> rfl
    · cases properties <;> rfl
    · rfl
  · rfl

/-- **What is looked at in a node** does not change when further entries are left out. -/
theorem layer?_tidy (compositions : Bool) (n : Node) :
    layer? compositions n.tidy = (layer? compositions n).map Layer.tidy := by
  cases n with
  | reference r => rfl
  | schema k items properties allOf oneOf anyOf extras =>
    rw [tidy_schema, layer?, layer?, Option.map_some, layer, layer, composition?_tidy, typed_tidy]
    cases compositions with
    | false => rfl
    | true =>
      simp only [if_true]
      cases composition? allOf oneOf anyOf <;> rfl

/-! ### What is found -/

/-- For the references known, the second function finds what the first one finds, without the
further entries that have no value, or fails alike; and what is found leads to references known
only. -/
structure Mirrors (known : String → Prop) (find find' : Finder) : Prop where
  ok : ∀ ref n, known ref → find ref = .ok n → find' ref = .ok n.tidy
  error : ∀ ref e, known ref → find ref = .error e → ∃ e', find' ref = .error e' ∧ e.Alike e'
  closed : ∀ ref n, known ref → find ref = .ok n → ∀ x ∈ nodeRefs n, known x

section

variable {known : String → Prop} {find find' : Finder} {compositions : Bool}
  {following : List String} {n : Node} {t : TypeExpr} {e : Failure}

/-- The references in the parts of a layer are references in the node. -/
theorem known_of_mem_parts {l : Layer} (hn : ∀ x ∈ nodeRefs n, known x)
    (hl : layer? compositions n = some l) {m : Node} (hm : m ∈ l.parts) :
    ∀ x ∈ nodeRefs m, known x := by
  have hchild : m ∈ children compositions n := by rwa [children_of_layer? hl]
  exact fun x hx => hn x (nodeRefs_subset_of_mem_children hchild hx)

/-- **What is derived with the one function is derived with the other.** -/
theorem Yields.mirror (hfind : Mirrors known find find')
    (h : Yields find compositions following n t) :
    (∀ x ∈ nodeRefs n, known x) → Yields find' compositions following n.tidy t := by
  -- What is known is closed under following, so each reference met is found by both functions.
  induction h with
  | again hr => exact fun _ => .again hr
  | @target following r m t hr hm _ ih =>
    intro hn
    have hknown : known r.target := hn _ (List.mem_singleton_self _)
    exact .target hr (hfind.ok _ _ hknown hm) (ih (hfind.closed _ _ hknown hm))
  | @layer following n l ts hl hlen _ ih =>
    intro hn
    have hl' : layer? compositions n.tidy = some l.tidy := by rw [layer?_tidy, hl, Option.map_some]
    rw [← assemble_tidy]
    refine .layer hl' (by rw [parts_tidy, List.length_map, hlen]) fun q hq => ?_
    rw [parts_tidy, List.zip_map_left] at hq
    obtain ⟨p, hp, rfl⟩ := List.mem_map.mp hq
    exact ih p hp (known_of_mem_parts hn hl (List.of_mem_zip hp).1)

/-- A node that fails with the one function fails alike with the other. -/
theorem Fails.mirror (hfind : Mirrors known find find')
    (h : Fails find compositions following n e) : (∀ x ∈ nodeRefs n, known x) →
      ∃ e', Fails find' compositions following n.tidy e' ∧ e.Alike e' := by
  induction h with
  | @broken following r e hr he =>
    intro hn
    obtain ⟨e', he', halike⟩ := hfind.error _ _ (hn _ (List.mem_singleton_self _)) he
    exact ⟨e', .broken hr he', halike⟩
  | @target following r m e hr hm _ ih =>
    intro hn
    have hknown : known r.target := hn _ (List.mem_singleton_self _)
    obtain ⟨e', he', halike⟩ := ih (hfind.closed _ _ hknown hm)
    exact ⟨e', .target hr (hfind.ok _ _ hknown hm) he', halike⟩
  | @layer following n l before after m e hl hparts hbefore _ ih =>
    intro hn
    have hknown : ∀ p ∈ before ++ m :: after, ∀ x ∈ nodeRefs p, known x := fun p hp =>
      known_of_mem_parts hn hl (hparts ▸ hp)
    have hl' : layer? compositions n.tidy = some l.tidy := by rw [layer?_tidy, hl, Option.map_some]
    obtain ⟨e', he', halike⟩ := ih (hknown m (by simp))
    refine ⟨e', .layer hl' (by rw [parts_tidy, hparts, List.map_append, List.map_cons])
      (fun b hb => ?_) he', halike⟩
    obtain ⟨p, hp, rfl⟩ := List.mem_map.mp hb
    obtain ⟨t, ht⟩ := hbefore p hp
    exact ⟨t, ht.mirror hfind (hknown p (List.mem_append_left _ hp))⟩

/-- What comes of a reference depends on its target only. -/
theorem Outcome.of_target_eq {r r' : Description.Reference} (hr : r.target = r'.target)
    {res : Except Failure TypeExpr} (h : Outcome find compositions following (.reference r) res) :
    Outcome find compositions following (.reference r') res := by
  by_cases hmem : r.target ∈ following
  · obtain rfl := (outcome_again hmem).mp h
    exact (outcome_again (hr ▸ hmem)).mpr rfl
  · cases hfind : find r.target with
    | ok m =>
      exact (outcome_target (hr ▸ hmem) (hr ▸ hfind)).mpr (hr ▸ (outcome_target hmem hfind).mp h)
    | error e =>
      obtain rfl := (outcome_broken hmem hfind).mp h
      exact (outcome_broken (hr ▸ hmem) (hr ▸ hfind)).mpr rfl

/-- **A reference has the same type in two descriptions, or fails in both alike**, if what the one
has for references mirrors what the other has. -/
theorem typeOf_mirror {root root' : Fields} {s s' : Session} (hs : Faithful root s)
    (hs' : Faithful root' s') (hfind : Mirrors known (target root) (target root'))
    (r : Description.Reference) (hr : known r.target) :
    (∃ t, (typeOf root compositions (.reference r) s).1 = .ok t ∧
        (typeOf root' compositions (.reference r) s').1 = .ok t) ∨
      ∃ e e', (typeOf root compositions (.reference r) s).1 = .error e ∧
        (typeOf root' compositions (.reference r) s').1 = .error e' ∧ e.Alike e' := by
  have hknown : ∀ x ∈ nodeRefs (.reference r), known x := fun x hx =>
    List.mem_singleton.mp hx ▸ hr
  have hout : Outcome (target root) compositions [] (.reference r)
      (typeOf root compositions (.reference r) s).1 :=
    hs ▸ (outcome_typeOf s (.reference r) _).mp rfl
  have hout' {res : Except Failure TypeExpr}
      (h : Outcome (target root') compositions [] (Node.reference r).tidy res) :
      (typeOf root' compositions (.reference r) s').1 = res := by
    have hsame : (Description.Reference.mk r.target (givenExtras r.extras)).target = r.target := rfl
    rw [outcome_typeOf, hs']
    exact Outcome.of_target_eq hsame h
  cases hres : (typeOf root compositions (.reference r) s).1 with
  | ok t =>
    rw [hres] at hout
    exact Or.inl ⟨t, rfl, hout' (Yields.mirror hfind hout hknown)⟩
  | error e =>
    rw [hres] at hout
    obtain ⟨e', he', halike⟩ := Fails.mirror hfind hout hknown
    exact Or.inr ⟨e, e', rfl, hout' he', halike⟩

end

end Reference

end ServerActions
