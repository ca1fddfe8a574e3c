import Mathlib.Data.List.Induction
import Mathlib.Data.List.Nodup

/-!
# Entries under keys

What is looked up in a list of keys with something under each of them, and what is put there.

## Main definitions

* `putBy` — the entries with one more, where some keys are taken for the same.
* `putEach` — the entries with several more, where only equal keys are the same.

## Main results

* `mem_of_lookup`, `lookup_of_mem` — what is found under a key is an entry, and an entry is found
  when no key stands there twice.
* `pairwise_putBy`, `mem_of_mem_putBy` — keys that are told apart stay so, and every entry is the
  one that was put or was there.
* `lookup_putEach`, `map_fst_putEach` — under a key stands the last value that was put there, and
  the keys stand in the order in which they appear first.
* `lookup_of_mem_putEach`, `mem_of_mem_putEach` — every entry is found under its key, and is one of
  those that were put.
* `putEach_append_cons` — where one of the entries that are put stands, if it counts at all.
-/

namespace ServerActions

/-! ### Looking up -/

section

variable {α β : Type} [DecidableEq α] {es : List (α × β)} {k : α} {v : β}

/-- What is found under a key is an entry. -/
theorem mem_of_lookup (h : es.lookup k = some v) : (k, v) ∈ es := by
  obtain ⟨before, after, rfl, -⟩ := List.lookup_eq_some_iff.mp h
  exact List.mem_append_right _ (List.mem_cons_self ..)

/-- An entry is found under its key, when no key stands there twice. -/
theorem lookup_of_mem (hnodup : (es.map Prod.fst).Nodup) (h : (k, v) ∈ es) :
    es.lookup k = some v := by
  obtain ⟨before, after, rfl⟩ := List.append_of_mem h
  refine List.lookup_eq_some_iff.mpr ⟨before, after, rfl, fun e he => ?_⟩
  rw [List.map_append, List.map_cons] at hnodup
  have hne : e.1 ≠ k := fun hek =>
    (List.nodup_append.mp hnodup).2.2 e.1 (List.mem_map_of_mem he) k (List.mem_cons_self ..) hek
  simpa using Ne.symm hne

end

/-! ### One entry more -/

section

variable {α β : Type} {same : α → α → Bool} {e f : α × β} {es : List (α × β)}

/-- The entries with one more: in the place of the first with the same key, or at the end.  The key
of the first one stays. -/
def putBy (same : α → α → Bool) (e : α × β) : List (α × β) → List (α × β)
  | [] => [e]
  | f :: es => if same f.1 e.1 then (f.1, e.2) :: es else f :: putBy same e es

/-- The keys stay, or one is added that none of them is the same as. -/
theorem map_fst_putBy (e : α × β) (es : List (α × β)) :
    (putBy same e es).map Prod.fst = es.map Prod.fst ∨
      (∀ k ∈ es.map Prod.fst, same k e.1 = false) ∧
        (putBy same e es).map Prod.fst = es.map Prod.fst ++ [e.1] := by
  induction es with
  | nil => exact Or.inr ⟨fun _ h => absurd h List.not_mem_nil, rfl⟩
  | cons f es ih =>
    rw [putBy]
    split
    · exact Or.inl rfl
    · next hf =>
      rcases ih with heq | ⟨hall, heq⟩
      · exact Or.inl (by rw [List.map_cons, heq, List.map_cons])
      · refine Or.inr ⟨?_, by rw [List.map_cons, heq, List.map_cons, List.cons_append]⟩
        exact List.forall_mem_cons.mpr ⟨Bool.eq_false_iff.mpr hf, hall⟩

/-- Keys that are told apart stay so. -/
theorem pairwise_putBy (e : α × β)
    (h : (es.map Prod.fst).Pairwise fun k k' => same k k' = false) :
    ((putBy same e es).map Prod.fst).Pairwise fun k k' => same k k' = false := by
  rcases map_fst_putBy e es with heq | ⟨hall, heq⟩
  · rw [heq]
    exact h
  · rw [heq, List.pairwise_append]
    refine ⟨h, List.pairwise_singleton _ _, fun k hk k' hk' => ?_⟩
    rw [List.mem_singleton.mp hk']
    exact hall k hk

/-- Every entry was there, or is the one that was put, perhaps under a key that is the same. -/
theorem mem_of_mem_putBy (h : f ∈ putBy same e es) :
    f ∈ es ∨ f = e ∨ same f.1 e.1 = true ∧ f.2 = e.2 := by
  induction es with
  | nil => exact Or.inr (Or.inl (List.mem_singleton.mp h))
  | cons g es ih =>
    rw [putBy] at h
    split at h
    · next hg =>
      rcases List.mem_cons.mp h with rfl | h
      · exact Or.inr (Or.inr ⟨hg, rfl⟩)
      · exact Or.inl (List.mem_cons_of_mem _ h)
    · rcases List.mem_cons.mp h with rfl | h
      · exact Or.inl (List.mem_cons_self ..)
      · exact (ih h).imp_left (List.mem_cons_of_mem _)

/-- What holds of all values holds of them with one more. -/
theorem forall_mem_putBy {P : β → Prop} (he : P e.2) (h : ∀ f ∈ es, P f.2) :
    ∀ f ∈ putBy same e es, P f.2 := by
  intro f hf
  rcases mem_of_mem_putBy hf with hf | rfl | ⟨-, heq⟩
  · exact h f hf
  · exact he
  · exact heq ▸ he

end

/-! ### Equal keys -/

section

variable {α : Type} [BEq α] [LawfulBEq α]

/-- A key at the end appears there first, unless it appeared before. -/
theorem eraseDups_concat (ks : List α) (k : α) :
    (ks ++ [k]).eraseDups = if k ∈ ks then ks.eraseDups else ks.eraseDups ++ [k] := by
  rw [List.eraseDups_append]
  split_ifs with h
  · rw [List.removeAll, List.filter_cons_of_neg (by simpa using h), List.filter_nil,
      List.eraseDups_nil, List.append_nil]
  · rw [List.removeAll, List.filter_cons_of_pos (by simpa using h)]
    rfl

/-- The keys, each at its first appearance only, are distinct. -/
theorem nodup_eraseDups (ks : List α) : ks.eraseDups.Nodup := by
  induction ks using List.reverseRecOn with
  | nil => exact List.nodup_nil
  | append_singleton ks k ih =>
    rw [eraseDups_concat]
    split_ifs with h
    · exact ih
    · refine ih.append (List.nodup_singleton k) (List.disjoint_singleton.mpr fun hk => ?_)
      exact h (List.mem_eraseDups.mp hk)

end

section

variable {α β : Type} [DecidableEq α]

/-- Under its key the value that was put is found, and under the others what was found before. -/
theorem lookup_putBy (e : α × β) (es : List (α × β)) (k : α) :
    (putBy (fun k k' => decide (k = k')) e es).lookup k
      = if k = e.1 then some e.2 else es.lookup k := by
  induction es with
  | nil =>
    by_cases h : k = e.1
    · rw [putBy, h, List.lookup_cons_self, if_pos rfl]
    · rw [putBy, List.lookup_cons, beq_false_of_ne h, if_neg h]
  | cons f es ih =>
    by_cases hf : f.1 = e.1
    · rw [putBy, if_pos (decide_eq_true hf), hf, List.lookup_cons, List.lookup_cons, hf]
      by_cases h : k = e.1
      · rw [if_pos h, h, beq_self_eq_true]
      · rw [if_neg h, beq_false_of_ne h]
    · rw [putBy, if_neg (by simpa using hf), List.lookup_cons, List.lookup_cons, ih]
      by_cases h : k = e.1
      · rw [h, beq_false_of_ne (Ne.symm hf), if_pos rfl]
      · simp only [if_neg h]

/-- A key stands there once more, unless it stands there already. -/
theorem map_fst_putBy_eq (e : α × β) (es : List (α × β)) :
    (putBy (fun k k' => decide (k = k')) e es).map Prod.fst
      = if e.1 ∈ es.map Prod.fst then es.map Prod.fst else es.map Prod.fst ++ [e.1] := by
  induction es with
  | nil => rfl
  | cons f es ih =>
    by_cases hf : f.1 = e.1
    · rw [putBy, if_pos (decide_eq_true hf), List.map_cons, List.map_cons, hf,
        if_pos (List.mem_cons_self ..)]
    · rw [putBy, if_neg (by simpa using hf), List.map_cons, ih, List.map_cons]
      by_cases h : e.1 ∈ es.map Prod.fst
      · rw [if_pos h, if_pos (List.mem_cons_of_mem _ h)]
      · rw [if_neg h, if_neg fun hmem => h ((List.mem_cons.mp hmem).resolve_left (Ne.symm hf)),
          List.cons_append]

/-- The entries that are put one after the other, where only equal keys are the same. -/
def putEach (es ps : List (α × β)) : List (α × β) :=
  ps.foldl (fun es p => putBy (fun k k' => decide (k = k')) p es) es

theorem putEach_concat (es ps : List (α × β)) (p : α × β) :
    putEach es (ps ++ [p]) = putBy (fun k k' => decide (k = k')) p (putEach es ps) := by
  rw [putEach, List.foldl_append]
  rfl

/-- Under a key stands the last of the values that were put there, or what stood there before. -/
theorem lookup_putEach (es ps : List (α × β)) (k : α) :
    (putEach es ps).lookup k
      = ((ps.filter (·.1 = k)).getLast?.map Prod.snd).or (es.lookup k) := by
  induction ps using List.reverseRecOn with
  | nil => rfl
  | append_singleton ps p ih =>
    rw [putEach_concat, lookup_putBy, List.filter_append]
    by_cases h : p.1 = k
    · rw [if_pos h.symm, List.filter_cons_of_pos (by simpa using h), List.filter_nil,
        List.getLast?_concat, Option.map_some, Option.some_or]
    · rw [if_neg (Ne.symm h), List.filter_cons_of_neg (by simpa using h), List.filter_nil,
        List.append_nil, ih]

/-- The keys are those of the entries that were put, in the order in which they appear first. -/
theorem map_fst_putEach (ps : List (α × β)) :
    (putEach [] ps).map Prod.fst = (ps.map Prod.fst).eraseDups := by
  induction ps using List.reverseRecOn with
  | nil => rfl
  | append_singleton ps p ih =>
    rw [putEach_concat, map_fst_putBy_eq, ih, List.map_append, List.map_cons, List.map_nil,
      eraseDups_concat]
    simp only [List.mem_eraseDups]

/-- Each entry is found under its key. -/
theorem lookup_of_mem_putEach {ps : List (α × β)} {p : α × β} (h : p ∈ putEach [] ps) :
    (putEach [] ps).lookup p.1 = some p.2 := by
  refine lookup_of_mem ?_ h
  rw [map_fst_putEach]
  exact nodup_eraseDups _

/-- Every entry is one of those that were put. -/
theorem mem_of_mem_putEach {ps : List (α × β)} {p : α × β} (h : p ∈ putEach [] ps) : p ∈ ps := by
  have hlookup := lookup_of_mem_putEach h
  rw [lookup_putEach, List.lookup_nil, Option.or_none] at hlookup
  obtain ⟨last, hlast, hvalue⟩ := Option.map_eq_some_iff.mp hlookup
  obtain ⟨hmem, hkey⟩ := List.mem_filter.mp (List.mem_of_getLast? hlast)
  rwa [← Prod.ext (of_decide_eq_true hkey) hvalue]

/-- An entry is put among the first ones if its key stands there, and after them otherwise. -/
theorem putBy_append (e : α × β) (first rest : List (α × β)) :
    putBy (fun k k' => decide (k = k')) e (first ++ rest)
      = if e.1 ∈ first.map Prod.fst then putBy (fun k k' => decide (k = k')) e first ++ rest
        else first ++ putBy (fun k k' => decide (k = k')) e rest := by
  induction first with
  | nil => rfl
  | cons f first ih =>
    by_cases hf : f.1 = e.1
    · simp [putBy, hf]
    · simp only [List.cons_append, putBy, hf, decide_false, Bool.false_eq_true, if_false, ih,
        List.map_cons, List.mem_cons, Ne.symm hf, false_or]
      split_ifs <;> rfl

/-- Entries with a different key each stay as they are. -/
theorem putEach_eq_self {ps : List (α × β)} (h : (ps.map Prod.fst).Nodup) : putEach [] ps = ps := by
  induction ps using List.reverseRecOn with
  | nil => rfl
  | append_singleton ps p ih =>
    rw [List.map_append, List.map_cons, List.map_nil] at h
    have hp : p.1 ∉ ps.map Prod.fst := fun hmem =>
      (List.nodup_append.mp h).2.2 p.1 hmem p.1 (List.mem_singleton_self _) rfl
    have hput := putBy_append p ps []
    rw [List.append_nil, if_neg hp] at hput
    rw [putEach_concat, ih (List.nodup_append.mp h).1, hput]
    rfl

/-- What is put stands in one place, with other keys before it. -/
theorem exists_putBy (k : α) (es : List (α × β)) : ∃ first rest, k ∉ first.map Prod.fst ∧
    ∀ v, putBy (fun k k' => decide (k = k')) (k, v) es = first ++ (k, v) :: rest := by
  induction es with
  | nil => exact ⟨[], [], List.not_mem_nil, fun v => rfl⟩
  | cons e es ih =>
    by_cases he : e.1 = k
    · exact ⟨[], es, List.not_mem_nil, fun v => by simp [putBy, he]⟩
    · obtain ⟨first, rest, hfirst, heq⟩ := ih
      refine ⟨e :: first, rest, by simp [Ne.symm he, hfirst], fun v => ?_⟩
      rw [putBy, if_neg (by simpa using he), heq, List.cons_append]

/-- **Of the entries that are put, one stands in one place of the result**, unless its key is put
once more later, when it is of no account. -/
theorem putEach_append_cons (before after : List (α × β)) (k : α) :
    if k ∈ after.map Prod.fst then
      ∀ v w, putEach [] (before ++ (k, v) :: after) = putEach [] (before ++ (k, w) :: after)
    else ∃ first rest, k ∉ first.map Prod.fst ∧
      ∀ v, putEach [] (before ++ (k, v) :: after) = first ++ (k, v) :: rest := by
  -- By induction from the last entry on, as each is put into what those before it gave.
  induction after using List.reverseRecOn with
  | nil =>
    obtain ⟨first, rest, hfirst, heq⟩ := exists_putBy k (putEach [] before)
    rw [List.map_nil, if_neg List.not_mem_nil]
    exact ⟨first, rest, hfirst, fun v => (putEach_concat ..).trans (heq v)⟩
  | append_singleton after e ih =>
    simp only [← List.cons_append, ← List.append_assoc, putEach_concat, List.map_append,
      List.map_cons, List.map_nil, List.mem_append, List.mem_singleton]
    by_cases hafter : k ∈ after.map Prod.fst
    · rw [if_pos hafter] at ih
      rw [if_pos (Or.inl hafter)]
      exact fun v w => by rw [ih v w]
    · rw [if_neg hafter] at ih
      obtain ⟨first, rest, hfirst, heq⟩ := ih
      by_cases he : k = e.1
      · -- The last entry takes the place of the one that is looked at.
        rw [if_pos (Or.inr he)]
        intro v w
        rw [heq v, heq w, putBy_append, putBy_append, if_neg (he ▸ hfirst), if_neg (he ▸ hfirst),
          putBy, putBy, if_pos (decide_eq_true he), if_pos (decide_eq_true he)]
      · rw [if_neg (not_or.mpr ⟨hafter, he⟩)]
        by_cases hmem : e.1 ∈ first.map Prod.fst
        · refine ⟨putBy (fun k k' => decide (k = k')) e first, rest, ?_, fun v => ?_⟩
          · rwa [map_fst_putBy_eq, if_pos hmem]
          · rw [heq v, putBy_append, if_pos hmem]
        · refine ⟨first, putBy (fun k k' => decide (k = k')) e rest, hfirst, fun v => ?_⟩
          rw [heq v, putBy_append, if_neg hmem, putBy, if_neg (by simpa using he)]

end

end ServerActions
