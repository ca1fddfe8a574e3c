import Mathlib.Data.List.Chain
import ServerActions.Proofs.Description.Containment
import ServerActions.Proofs.Reference.Chain

/-!
# The references on the way to an object

A reference to an object is followed from one mapping to the next, as long as there is a text under
the key of references.  The references met on the way are a trail: the first one is given, and each
refers to the one after it.  Where a trail ends decides what comes of following it: the object that
is described there, a failure that names the last reference, or the failure that the trail comes
back to one of its references.

No trail is followed for longer than there are texts to be met.  Its references are distinct as far
as they are followed, and all but the first are texts of the description under the key of
references.

## Main definitions

* `RefersTo` — what a reference points to refers to the next one.
* `IsTrail` — references of which the first is given and each refers to the one after it.
* `FollowedTo` — what comes of following a reference, by where its trail ends.

## Main results

* `leads_iff` — a reference leads to the next one if and only if it refers to it.
* `IsTrail.follow_eq` — what is followed from the start of a trail goes on from its end.
* `IsTrail.length_le` — a trail of distinct references is no longer than the description allows.
* `object_followedTo` — **what comes of a reference to an object is what the end of its trail
  says**.
-/

namespace ServerActions.Reference

open Description (OrReference referenceKey)
open Relation (ReflTransGen)

variable {α : Type} {root : Fields} {m : Model α} {first ref next last : String}
  {seen refs : List String} {e : Except Failure α}

/-! ### From one reference to the next -/

/-- A reference points to a mapping that refers to the next one: all its keys are texts without
surrogates, and what it has under the key of references denotes the next one. -/
def RefersTo (root : Fields) (ref next : String) : Prop :=
  ∃ v fs t, resolve root ref = .ok v ∧ v.fields? = some fs ∧ fs.get? referenceKey = some t ∧
    (∀ f ∈ fs, f.1.IsName) ∧ t.text? = some next

/-- The target of a reference that was read is what its key denotes. -/
theorem text?_of_reference {fs : Fields} {t : Value} {r : Description.Reference}
    (ht : fs.get? referenceKey = some t) (h : Description.Reference.model.ofFields fs = .valid r) :
    t.text? = some r.target := by
  obtain ⟨htarget, -⟩ := reference_eq_valid.mp h
  simp only [Fields.required, Fields.lookup, ht, Checked.under_eq_valid] at htarget
  exact Value.toText_eq_valid.mp htarget

/-- **A reference leads to the next one if and only if it refers to it.** -/
theorem leads_iff : Leads root ref next ↔ RefersTo root ref next := by
  constructor
  · rintro ⟨v, fs, r, hv, hfs, href, hr, rfl⟩
    obtain ⟨t, ht⟩ := Option.isSome_iff_exists.mp href
    have hkeys := ((Description.exists_reference_iff ht).mp ⟨r, hr⟩).1
    exact ⟨v, fs, t, hv, hfs, ht, hkeys, text?_of_reference ht hr⟩
  · rintro ⟨v, fs, t, hv, hfs, ht, hkeys, htext⟩
    obtain ⟨r, hr⟩ := (Description.exists_reference_iff ht).mpr
      ⟨hkeys, Option.isSome_iff_exists.mpr ⟨next, htext⟩⟩
    have htarget : r.target = next :=
      Option.some.inj ((text?_of_reference ht hr).symm.trans htext)
    exact ⟨v, fs, r, hv, hfs, Option.isSome_iff_exists.mpr ⟨t, ht⟩, hr, htarget⟩

/-! ### Trails -/

/-- References of which the first is given and each refers to the one after it. -/
def IsTrail (root : Fields) (first : String) (refs : List String) : Prop :=
  refs.head? = some first ∧ refs.IsChain (RefersTo root)

theorem isTrail_singleton : IsTrail root first [ref] ↔ ref = first := by
  simp [IsTrail]

/-- A trail goes on with what its last reference refers to. -/
theorem isTrail_concat :
    IsTrail root first (seen ++ [ref] ++ [next]) ↔
      IsTrail root first (seen ++ [ref]) ∧ RefersTo root ref next := by
  have hhead : (seen ++ [ref] ++ [next]).head? = (seen ++ [ref]).head? := by
    cases seen <;> rfl
  rw [IsTrail, IsTrail, hhead, List.isChain_append, and_assoc]
  simp

/-- A trail that is not at its start has one reference less before. -/
theorem IsTrail.of_concat (h : IsTrail root first (seen ++ [ref])) (hne : seen ≠ []) :
    IsTrail root first seen := by
  obtain ⟨before, last, rfl⟩ := List.eq_nil_or_concat seen |>.resolve_left hne
  rw [List.concat_eq_append] at h ⊢
  exact (isTrail_concat.mp h).1

/-- The last reference of a trail is led to by its first one. -/
theorem IsTrail.leads (h : IsTrail root first (seen ++ [ref])) :
    ReflTransGen (Leads root) first ref := by
  induction seen using List.reverseRecOn generalizing ref with
  | nil => rw [isTrail_singleton.mp h]
  | append_singleton seen last ih =>
    obtain ⟨hbefore, hnext⟩ := isTrail_concat.mp h
    exact (ih hbefore).tail (leads_iff.mpr hnext)

/-- All references of a trail but the first are texts of the description. -/
theorem IsTrail.mem_texts (h : IsTrail root first (seen ++ [ref])) :
    ∀ x ∈ seen ++ [ref], x ∈ insert first (refsInFields root).toFinset := by
  induction seen using List.reverseRecOn generalizing ref with
  | nil =>
    intro x hx
    rw [List.nil_append, List.mem_singleton] at hx
    rw [hx, isTrail_singleton.mp h]
    exact Finset.mem_insert_self ..
  | append_singleton seen last ih =>
    obtain ⟨hbefore, hnext⟩ := isTrail_concat.mp h
    intro x hx
    rcases List.mem_append.mp hx with hx | hx
    · exact ih hbefore x hx
    · rw [List.mem_singleton.mp hx]
      have hmem : ref ∈ refsInFields root := (leads_iff.mpr hnext).mem_refs
      exact Finset.mem_insert_of_mem (List.mem_toFinset.mpr hmem)

/-- **A trail of distinct references is no longer than there are texts to be met**, and the first
one. -/
theorem IsTrail.length_le (h : IsTrail root first refs) (hnodup : refs.Nodup) :
    refs.length ≤ (refsInFields root).toFinset.card + 1 := by
  have hsub : refs.toFinset ⊆ insert first (refsInFields root).toFinset := by
    intro x hx
    rw [List.mem_toFinset] at hx
    obtain ⟨seen, ref, rfl⟩ := (List.eq_nil_or_concat refs).resolve_left (List.ne_nil_of_mem hx)
    rw [List.concat_eq_append] at h hx
    exact h.mem_texts x hx
  calc refs.length = refs.toFinset.card := (List.toFinset_card_of_nodup hnodup).symm
    _ ≤ (insert first (refsInFields root).toFinset).card := Finset.card_le_card hsub
    _ ≤ (refsInFields root).toFinset.card + 1 := Finset.card_insert_le ..

/-! ### Following a trail -/

/-- A reference that was seen before ends the trail, however many might still be followed. -/
theorem follow_of_mem (h : ref ∈ seen) (bound : ℕ) :
    follow root m bound seen ref = .error (comesBack seen ref) := by
  cases bound with
  | zero => rw [follow, if_pos h]; rfl
  | succ bound => rw [follow_succ, if_pos h]

/-- **What is followed from the start of a trail goes on from its end.**  Each step takes one from
the number of references that may be followed and sees one more of them, so that the two make up the
number at the start. -/
theorem IsTrail.follow_eq (h : IsTrail root first (seen ++ [ref])) (hnodup : seen.Nodup) (k : ℕ) :
    follow root m (seen.length + k) [] first = follow root m k seen ref := by
  -- By induction from the end of the trail, where the references seen are added.
  induction seen using List.reverseRecOn generalizing ref k with
  | nil => rw [isTrail_singleton.mp h, List.length_nil, Nat.zero_add]
  | append_singleton seen last ih =>
    obtain ⟨hbefore, hnext⟩ := isTrail_concat.mp h
    have hlength : (seen ++ [last]).length + k = seen.length + (k + 1) := by
      rw [List.length_append, List.length_singleton]
      omega
    have hnot : last ∉ seen := by
      intro hmem
      exact (List.nodup_append.mp hnodup).2.2 last hmem last (List.mem_singleton_self _) rfl
    rw [hlength, ih hbefore (List.nodup_append.mp hnodup).1, follow_succ, if_neg hnot,
      hop_eq_next.mpr (leads_iff.mpr hnext)]

/-- A chain that is followed to its outcome goes along a trail of distinct references, and so many
are enough. -/
theorem Follows.exists_trail (h : Follows root m seen ref e)
    (htrail : IsTrail root first (seen ++ [ref])) (hnodup : seen.Nodup) :
    ∃ refs, IsTrail root first refs ∧ refs.Nodup ∧
      ∀ bound, refs.length ≤ bound → follow root m bound [] first = e := by
  induction h with
  | @again seen ref hmem =>
    refine ⟨seen, htrail.of_concat (List.ne_nil_of_mem hmem), hnodup, fun bound hbound => ?_⟩
    obtain ⟨k, rfl⟩ := Nat.exists_eq_add_of_le hbound
    rw [htrail.follow_eq hnodup, follow_of_mem hmem]
  | @done seen ref e hnot hdone =>
    refine ⟨seen ++ [ref], htrail, ?_, fun bound hbound => ?_⟩
    · exact hnodup.append (List.nodup_singleton ref) (List.disjoint_singleton.mpr hnot)
    · -- The last reference is followed as well, so one more is taken than were seen.
      rw [List.length_append, List.length_singleton] at hbound
      obtain ⟨k, rfl⟩ := Nat.exists_eq_add_of_le hbound
      rw [Nat.add_assoc, htrail.follow_eq hnodup, Nat.add_comm 1 k, follow_succ, if_neg hnot, hdone]
  | @next seen ref r e hnot hnext _ ih =>
    refine ih (isTrail_concat.mpr ⟨htrail, leads_iff.mp (hop_eq_next.mp hnext)⟩) ?_
    exact hnodup.append (List.nodup_singleton ref) (List.disjoint_singleton.mpr hnot)

/-! ### Where a trail ends -/

/-- The outcome of following a reference is what the end of its trail says. -/
structure FollowedTo (root : Fields) (m : Model α) (first : String) (e : Except Failure α) :
    Prop where
  /-- There is a trail of distinct references, one more than the description has texts under the key
  of references at most, such that the outcome is reached when so many may be followed, and does not
  change when more may be. -/
  ends : ∃ refs, IsTrail root first refs ∧ refs.Nodup ∧
    refs.length ≤ (refsInFields root).toFinset.card + 1 ∧
    ∀ bound, refs.length ≤ bound → follow root m bound [] first = e
  /-- At a mapping that does not refer on, the outcome is the object that it describes, or the
  failure that it describes none, which names the last reference. -/
  found : ∀ seen last v fs, IsTrail root first (seen ++ [last]) → resolve root last = .ok v →
    v.fields? = some fs → fs.get? referenceKey = none →
      e = match m.ofFields fs with
        | .valid a => .ok a
        | .invalid faults => .error (.reference last (some (.invalidObject m.name faults)))
  /-- At the first reference that was met before, the outcome is the failure that the trail comes
  back, which names that reference and lists the trail. -/
  comesBack : ∀ seen again, IsTrail root first (seen ++ [again]) → seen.Nodup → again ∈ seen →
    e = .error (.reference again (some (.circular (seen ++ [again]))))
  /-- At a value that is no mapping, the outcome is the failure that it is no object, which names
  the last reference. -/
  noMapping : ∀ seen last v, IsTrail root first (seen ++ [last]) → resolve root last = .ok v →
    v.isMapping = false → e = .error (.reference last (some (.notObject m.name)))
  /-- At a reference that points to nothing, the outcome is the failure of the pointer. -/
  broken : ∀ seen last f, IsTrail root first (seen ++ [last]) → resolve root last = .error f →
    e = .error f

theorem fields?_of_isMapping_eq_false {v : Value} (h : v.isMapping = false) :
    v.fields? = none := by
  cases v with
  | map fields => cases h
  | _ => rfl

/-- **What comes of a reference to an object is what the end of its trail says**, and an object that
is given as such stays as it is. -/
theorem object_followedTo (root : Fields) (m : Model α) :
    (∀ a, object root m (.object a) = .ok a) ∧
      ∀ r : Description.Reference, FollowedTo root m r.target (object root m (.reference r)) := by
  refine ⟨fun a => rfl, fun r => ?_⟩
  have hfollows : Follows root m [] r.target (object root m (.reference r)) :=
    (object_eq_iff r _).mp rfl
  -- Where nothing more is to be followed, the outcome is what is found there.
  have hdone : ∀ {seen last e}, IsTrail root r.target (seen ++ [last]) →
      hop root m last = .done e → object root m (.reference r) = e := fun htrail hhop =>
    (object_eq_iff r _).mpr (follows_of_leads htrail.leads hhop)
  constructor
  case ends =>
    obtain ⟨refs, htrail, hnodup, hbound⟩ :=
      hfollows.exists_trail (isTrail_singleton.mpr rfl) List.nodup_nil
    exact ⟨refs, htrail, hnodup, htrail.length_le hnodup, hbound⟩
  case found =>
    intro seen last v fs htrail hv hfs href
    refine hdone htrail ?_
    have hhas : fs.has referenceKey = false := by rw [Fields.has, href, Option.isSome_none]
    simp only [hop, hv, hfs, hhas, if_neg Bool.false_ne_true]
    cases m.ofFields fs <;> rfl
  case comesBack =>
    intro seen again htrail hnodup hmem
    have hle : seen.length ≤ (refsInFields root).length + 1 :=
      ((htrail.of_concat (List.ne_nil_of_mem hmem)).length_le hnodup).trans
        (Nat.succ_le_succ (List.toFinset_card_le _))
    obtain ⟨k, hk⟩ := Nat.exists_eq_add_of_le hle
    rw [object, hk, htrail.follow_eq hnodup, follow_of_mem hmem]
    rfl
  case noMapping =>
    intro seen last v htrail hv hmap
    refine hdone htrail ?_
    simp only [hop, hv, fields?_of_isMapping_eq_false hmap]
  case broken =>
    intro seen last f htrail hf
    refine hdone htrail ?_
    simp only [hop, hf]

/-! ### A trail with several ends -/

/-- The parameter at the end of a trail, as it is written. -/
def limitFields : Fields :=
  [(.str "name", .str "limit"), (.str "in", .str "query")]

/-- The same, as it is read. -/
def limitParameter : Description.Parameter :=
  ⟨"limit", .query, none, false, false, none, []⟩

/-- A mapping that refers to a place and has further entries. -/
def referring (ref : String) (more : Fields) : Value :=
  .map ((.str referenceKey, .str ref) :: more)

/-- A description with a reference to a parameter, a tail that leads into a loop of two, a mapping
that is no parameter and a list. -/
def winding : Fields :=
  [(.str "paths", .map []),
    (.str "x-ways", .map [(.str "limit", .map limitFields),
      (.str "alias", referring "#/x-ways/limit" []),
      (.str "tail", referring "#/x-ways/loop" []),
      (.str "loop", referring "#/x-ways/pool" []),
      (.str "pool", referring "#/x-ways/loop" []),
      (.str "nameless", .map [(.str "in", .str "query")]),
      (.str "listed", .list [])])]

/-- One trail of this description comes to a parameter, one comes back, and two end at what is
none. -/
theorem object_followedTo_winding :
    object winding Description.Parameter.model (.object limitParameter) = .ok limitParameter ∧
      object winding Description.Parameter.model (.reference ⟨"#/x-ways/alias", []⟩)
        = .ok limitParameter ∧
      object winding Description.Parameter.model (.reference ⟨"#/x-ways/tail", []⟩)
        = .error (.reference "#/x-ways/loop" (some (.circular
            ["#/x-ways/tail", "#/x-ways/loop", "#/x-ways/pool", "#/x-ways/loop"]))) ∧
      object winding Description.Parameter.model (.reference ⟨"#/x-ways/nameless", []⟩)
        = .error (.reference "#/x-ways/nameless"
            (some (.invalidObject "Parameter" [⟨["name"], .missing⟩]))) ∧
      object winding Description.Parameter.model (.reference ⟨"#/x-ways/listed", []⟩)
        = .error (.reference "#/x-ways/listed" (some (.notObject "Parameter"))) := by
  obtain ⟨hgiven, hfollowed⟩ := object_followedTo winding Description.Parameter.model
  have halias : RefersTo winding "#/x-ways/alias" "#/x-ways/limit" :=
    ⟨_, _, _, rfl, rfl, rfl, by decide, rfl⟩
  have htail : RefersTo winding "#/x-ways/tail" "#/x-ways/loop" :=
    ⟨_, _, _, rfl, rfl, rfl, by decide, rfl⟩
  have hloop : RefersTo winding "#/x-ways/loop" "#/x-ways/pool" :=
    ⟨_, _, _, rfl, rfl, rfl, by decide, rfl⟩
  have hpool : RefersTo winding "#/x-ways/pool" "#/x-ways/loop" :=
    ⟨_, _, _, rfl, rfl, rfl, by decide, rfl⟩
  refine ⟨hgiven limitParameter, ?_, ?_, ?_, ?_⟩
  · exact (hfollowed ⟨"#/x-ways/alias", []⟩).found ["#/x-ways/alias"] "#/x-ways/limit" _ _
      ⟨rfl, by simpa using halias⟩ rfl rfl rfl
  · exact (hfollowed ⟨"#/x-ways/tail", []⟩).comesBack
      ["#/x-ways/tail", "#/x-ways/loop", "#/x-ways/pool"] "#/x-ways/loop"
      ⟨rfl, by simpa using ⟨htail, hloop, hpool⟩⟩ (by decide) (by decide)
  · exact (hfollowed ⟨"#/x-ways/nameless", []⟩).found [] "#/x-ways/nameless" _ _
      (isTrail_singleton.mpr rfl) rfl rfl rfl
  · exact (hfollowed ⟨"#/x-ways/listed", []⟩).noMapping [] "#/x-ways/listed" _
      (isTrail_singleton.mpr rfl) rfl rfl

/-- A description with a mapping that refers to a parameter and has a number among its keys. -/
def straying : Fields :=
  [(.str "paths", .map []),
    (.str "x-ways", .map [(.str "limit", .map limitFields),
      (.str "alias", referring "#/x-ways/limit" [(.int 5, .null)])])]

/-- **A text under the key of references is not enough** for a mapping to refer on: where another
key is no text, the parameter that the text leads to is not found. -/
theorem not_found_straying :
    (∃ doc, Description.Document.model.ofFields straying = .valid doc) ∧
      ¬ (∀ (ref next : String) (v w : Value) (fs gs : Fields) (p : Description.Parameter),
        resolve straying ref = .ok v → v.fields? = some fs →
        fs.get? referenceKey = some (.str next) → resolve straying next = .ok w →
        w.fields? = some gs → gs.get? referenceKey = none →
        Description.Parameter.model.ofFields gs = .valid p →
          object straying Description.Parameter.model (.reference ⟨ref, []⟩) = .ok p) := by
  refine ⟨⟨_, rfl⟩, fun h => ?_⟩
  have hfound := h "#/x-ways/alias" "#/x-ways/limit" _ _ _ _ limitParameter rfl rfl rfl rfl rfl rfl
    rfl
  have hfails : ∃ f, object straying Description.Parameter.model
      (.reference ⟨"#/x-ways/alias", []⟩) = .error f := ⟨_, rfl⟩
  obtain ⟨f, hf⟩ := hfails
  rw [hf] at hfound
  cases hfound

end ServerActions.Reference
