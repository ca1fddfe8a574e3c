import Mathlib.Data.Finset.Card
import Mathlib.Logic.Relation
import ServerActions.Proofs.Reference.Occurrence

/-!
# Chains of references

The chain of references from one of them, as rules without a bound: it comes to an object, fails, or
comes back to a reference seen before.  The function that follows a chain goes on for at most a
number of references.  That number is never used up, because the references seen are distinct and
are the first one or texts of the description; so the function computes what the rules say.

## Main definitions

* `Hop`, `hop` — what is found at a reference: the next one, or the end of the chain.
* `Leads` — a reference leads to the next one.
* `Follows` — what comes of following a chain after the references seen.

## Main results

* `object_eq_iff` — the function computes what the rules say.
* `follows_of_leads` — a chain that comes to its end has the outcome of its last reference.
-/

namespace ServerActions.Reference

open Description (OrReference referenceKey)

variable {α : Type} {root : Fields} {m : Model α}

/-! ### One step -/

/-- What is found at a reference. -/
inductive Hop (α : Type)
  /-- Another reference. -/
  | next (ref : String)
  /-- The end of the chain. -/
  | done (e : Except Failure α)

/-- What is found at a reference where an object of a model is looked for. -/
def hop (root : Fields) (m : Model α) (ref : String) : Hop α :=
  match resolve root ref with
  | .error f => .done (.error f)
  | .ok v =>
    match v.fields? with
    | none => .done (.error (.reference ref (some (.notObject m.name))))
    | some fs =>
      if fs.has referenceKey then
        match Description.Reference.model.ofFields fs with
        | .valid r => .next r.target
        | .invalid faults => .done (.error (.bare (.faults faults)))
      else
        match m.ofFields fs with
        | .valid a => .done (.ok a)
        | .invalid faults => .done (.error (.reference ref (some (.invalidObject m.name faults))))

/-- A reference leads to the one that its target is. -/
def Leads (root : Fields) (ref next : String) : Prop :=
  ∃ v fs r, resolve root ref = .ok v ∧ v.fields? = some fs ∧ fs.has referenceKey = true ∧
    Description.Reference.model.ofFields fs = .valid r ∧ r.target = next

theorem hop_eq_next {ref next : String} : hop root m ref = .next next ↔ Leads root ref next := by
  unfold hop Leads
  constructor
  · intro h
    split at h
    · cases h
    · next v hv =>
      split at h
      · cases h
      · next fs hfs =>
        split_ifs at h with href
        · split at h
          · next r hr =>
            cases h
            exact ⟨v, fs, r, hv, hfs, href, hr, rfl⟩
          · cases h
        · split at h <;> cases h
  · rintro ⟨v, fs, r, hv, hfs, href, hr, rfl⟩
    simp only [hv, hfs, href, hr, if_true]

/-- The failure for a chain that comes back to a reference. -/
def comesBack (seen : List String) (ref : String) : Failure :=
  .reference ref (some (.circular (seen ++ [ref])))

/-- A chain is followed as what is found at its first reference says. -/
theorem follow_succ (bound : ℕ) (seen : List String) (ref : String) :
    follow root m (bound + 1) seen ref
      = if ref ∈ seen then .error (comesBack seen ref)
        else match hop root m ref with
          | .next r => follow root m bound (seen ++ [ref]) r
          | .done e => e := by
  rw [follow, hop]
  split_ifs
  · rfl
  · cases resolve root ref with
    | error f => rfl
    | ok v =>
      dsimp only [bind, Except.bind]
      cases v.fields? with
      | none => rfl
      | some fs =>
        dsimp only
        split_ifs
        · cases Description.Reference.model.ofFields fs <;> rfl
        · cases m.ofFields fs <;> rfl

/-! ### Rules -/

/-- What comes of following a chain from a reference after the references seen. -/
inductive Follows (root : Fields) (m : Model α) : List String → String → Except Failure α → Prop
  /-- The reference was seen. -/
  | again {seen : List String} {ref : String} (h : ref ∈ seen) :
      Follows root m seen ref (.error (comesBack seen ref))
  /-- The chain ends. -/
  | done {seen : List String} {ref : String} {e : Except Failure α} (h : ref ∉ seen)
      (hdone : hop root m ref = .done e) : Follows root m seen ref e
  /-- The chain goes on. -/
  | next {seen : List String} {ref r : String} {e : Except Failure α} (h : ref ∉ seen)
      (hnext : hop root m ref = .next r) (hrest : Follows root m (seen ++ [ref]) r e) :
      Follows root m seen ref e

/-- A chain has one outcome. -/
theorem Follows.unique {seen : List String} {ref : String} {e e' : Except Failure α}
    (h : Follows root m seen ref e) (h' : Follows root m seen ref e') : e = e' := by
  induction h with
  | again hmem =>
    cases h' with
    | again => rfl
    | done hnot => exact absurd hmem hnot
    | next hnot => exact absurd hmem hnot
  | done hnot hdone =>
    cases h' with
    | again hmem => exact absurd hmem hnot
    | done _ hdone' => exact Hop.done.inj (hdone.symm.trans hdone')
    | next _ hnext => cases hdone.symm.trans hnext
  | next hnot hnext _ ih =>
    cases h' with
    | again hmem => exact absurd hmem hnot
    | done _ hdone => cases hnext.symm.trans hdone
    | next _ hnext' hrest =>
      obtain rfl := Hop.next.inj (hnext.symm.trans hnext')
      exact ih hrest

/-! ### The bound -/

/-- The next reference is a text of the description. -/
theorem Leads.mem_refs {ref next : String} (h : Leads root ref next) :
    next ∈ refsInFields root := by
  obtain ⟨v, fs, r, hv, hfs, href, hr, rfl⟩ := h
  exact refsIn_of_contains (contains_of_resolve hv)
    (refsInFields_of_fields? hfs (target_of_read href hr))

/-- **The bound on the references followed is never used up.**  The references seen are distinct and
lie in a set `texts` that no reference leads out of, so the bound reaches zero only when all of that
set was seen. -/
theorem follows_follow {texts : Finset String}
    (hclosed : ∀ ref next, Leads root ref next → next ∈ texts) (bound : ℕ) :
    ∀ (seen : List String) (ref : String), seen.Nodup → (∀ x ∈ seen, x ∈ texts) → ref ∈ texts →
      texts.card ≤ bound + seen.length →
      Follows root m seen ref (follow root m bound seen ref) := by
  induction bound with
  | zero =>
    intro seen ref hnodup hsub href hcard
    -- Nothing may be followed any more, so all of the set was seen, and so was this reference.
    have hall : seen.toFinset = texts := by
      refine Finset.eq_of_subset_of_card_le (fun x hx => hsub x (List.mem_toFinset.mp hx)) ?_
      rw [List.toFinset_card_of_nodup hnodup]
      omega
    have hmem : ref ∈ seen := List.mem_toFinset.mp (hall ▸ href)
    rw [follow, if_pos hmem]
    exact .again hmem
  | succ bound ih =>
    intro seen ref hnodup hsub href hcard
    rw [follow_succ]
    split_ifs with hmem
    · exact .again hmem
    · cases hhop : hop root m ref with
      | done e => exact .done hmem hhop
      | next r =>
        refine .next hmem hhop (ih _ _ ?_ (fun x hx => ?_) (hclosed _ _ (hop_eq_next.mp hhop)) ?_)
        · exact hnodup.append (List.nodup_singleton ref) (List.disjoint_singleton.mpr hmem)
        · rcases List.mem_append.mp hx with hx | hx
          · exact hsub x hx
          · rwa [List.mem_singleton.mp hx]
        · rw [List.length_append, List.length_singleton]
          omega

/-- **The object that a reference leads to is what the rules say.** -/
theorem object_eq_iff (r : Description.Reference) (e : Except Failure α) :
    object root m (.reference r) = e ↔ Follows root m [] r.target e := by
  let texts : Finset String := insert r.target (refsInFields root).toFinset
  have hclosed : ∀ ref next, Leads root ref next → next ∈ texts := fun ref next h =>
    Finset.mem_insert_of_mem (List.mem_toFinset.mpr h.mem_refs)
  have hcard : texts.card ≤ (refsInFields root).length + 1 + ([] : List String).length :=
    (Finset.card_insert_le ..).trans (Nat.succ_le_succ (List.toFinset_card_le _))
  have hfollows : Follows root m [] r.target (object root m (.reference r)) :=
    follows_follow hclosed _ [] r.target List.nodup_nil (fun _ h => absurd h List.not_mem_nil)
      (Finset.mem_insert_self ..) hcard
  exact ⟨fun h => h ▸ hfollows, hfollows.unique⟩

/-! ### The end of a chain -/

open Relation (ReflTransGen TransGen)

theorem Leads.unique {ref next next' : String} (h : Leads root ref next)
    (h' : Leads root ref next') : next = next' := by
  obtain ⟨v, fs, r, hv, hfs, -, hr, rfl⟩ := h
  obtain ⟨v', fs', r', hv', hfs', -, hr', rfl⟩ := h'
  obtain rfl := Except.ok.inj (hv.symm.trans hv')
  obtain rfl := Option.some.inj (hfs.symm.trans hfs')
  rw [Checked.valid.inj (hr.symm.trans hr')]

/-- A chain that comes back to its first reference comes back to each of its references. -/
theorem transGen_self_of_leads {ref last : String} (hself : TransGen (Leads root) ref ref)
    (h : ReflTransGen (Leads root) ref last) : TransGen (Leads root) last last := by
  induction h with
  | refl => exact hself
  | tail _ hnext ih =>
    obtain ⟨next, hnext', hback⟩ := TransGen.head'_iff.mp ih
    rw [hnext'.unique hnext] at hback
    exact TransGen.tail' hback hnext

/-- What comes of a chain is that it comes back to a reference, or what is found at its end. -/
theorem Follows.cases_end {seen : List String} {ref : String} {e : Except Failure α}
    (h : Follows root m seen ref e) : (∃ seen' ref', e = .error (comesBack seen' ref')) ∨
      ∃ last, ReflTransGen (Leads root) ref last ∧ hop root m last = .done e := by
  induction h with
  | again => exact Or.inl ⟨_, _, rfl⟩
  | done _ hdone => exact Or.inr ⟨_, .refl, hdone⟩
  | next _ hnext _ ih =>
    refine ih.imp_right fun ⟨last, hlast, hdone⟩ => ⟨last, ?_, hdone⟩
    exact ReflTransGen.head (hop_eq_next.mp hnext) hlast

/-- **A chain that comes to its end has the outcome of its last reference.** -/
theorem follows_of_leads {ref last : String} {e : Except Failure α}
    (hlast : ReflTransGen (Leads root) ref last) (hdone : hop root m last = .done e) :
    Follows root m [] ref e := by
  have hend : ¬ TransGen (Leads root) last last := by
    intro hself
    obtain ⟨next, hnext, -⟩ := TransGen.head'_iff.mp hself
    cases hdone.symm.trans (hop_eq_next.mpr hnext)
  suffices h : ∀ seen, (∀ x ∈ seen, TransGen (Leads root) x ref) → Follows root m seen ref e from
    h [] fun _ hx => absurd hx List.not_mem_nil
  induction hlast using ReflTransGen.head_induction_on with
  | refl => exact fun seen hseen => .done (fun hmem => hend (hseen _ hmem)) hdone
  | @head ref next hnext hrest ih =>
    intro seen hseen
    -- If the reference had been seen, the chain would come back to it, and so to its end.
    have hnot : ref ∉ seen := fun hmem =>
      hend (transGen_self_of_leads (hseen _ hmem) (.head hnext hrest))
    refine .next hnot (hop_eq_next.mpr hnext) (ih _ fun x hx => ?_)
    rcases List.mem_append.mp hx with hx | hx
    · exact (hseen x hx).tail hnext
    · rw [List.mem_singleton.mp hx]
      exact .single hnext

end ServerActions.Reference
