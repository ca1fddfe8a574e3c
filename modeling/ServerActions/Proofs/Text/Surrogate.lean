import Mathlib.Data.List.Chain
import Mathlib.Data.List.TakeWhile
import ServerActions.Text.Encoding

/-!
# Texts and their code points

Code points that are spelled come back from the text, so a text that spells some code points spells
no others.  A text can be encoded where no surrogate is in it, and where no character in it stands
for one.

## Main definitions

* `IsWhole` — a text spells code points, and no two surrogates in it make up a character.
* `IsPlain` — every character of a text stands for itself.

## Main results

* `spelled_cases` — a code point is spelled by a character that stands for it, or by two.
* `points_spelling` — **the code points of a text are those that it spells**.
* `lt_of_mem_points` — there are no code points beyond those of characters.
* `isWhole_spelling`, `isWhole_spellingOf` — which code points make a whole text, and that all
  characters do.
* `inUtf8?_of_isPlain` — a plain text can be encoded.
-/

namespace ServerActions.Text

/-- A text spells code points, and no high surrogate stands right before a low one. -/
def IsWhole (cs : List Char) : Prop :=
  spelling (points cs) = cs ∧ (points cs).IsChain fun h l => ¬ (isHigh h = true ∧ isLow l = true)

instance (cs : List Char) : Decidable (IsWhole cs) :=
  inferInstanceAs (Decidable (_ ∧ _))

variable {n : ℕ} {c : Char} {cs : List Char} {s t : String}

theorem isHigh_iff : isHigh n = true ↔ 0xD800 ≤ n ∧ n < 0xDC00 := by
  simp [isHigh]

theorem isLow_iff : isLow n = true ↔ 0xDC00 ≤ n ∧ n < 0xE000 := by
  simp [isLow]

theorem isSurrogate_iff : isSurrogate n = true ↔ 0xD800 ≤ n ∧ n < 0xE000 := by
  simp [isSurrogate]

/-! ### Characters -/

/-- A character is no surrogate, and its number is below a bound. -/
theorem toNat_cases (c : Char) : isSurrogate c.toNat = false ∧ c.toNat < 0x110000 := by
  have hvalid := c.valid
  simp only [UInt32.isValidChar, Nat.isValidChar] at hvalid
  have hval : c.val.toNat = c.toNat := rfl
  rw [Bool.eq_false_iff, Ne, isSurrogate_iff]
  omega

/-- A number that is no surrogate is that of a character. -/
theorem toNat_ofNat (h : isSurrogate n = false) (hn : n < 0x110000) :
    (Char.ofNat n).toNat = n := by
  rw [Bool.eq_false_iff, Ne, isSurrogate_iff] at h
  have hvalid : n.isValidChar := by
    unfold Nat.isValidChar
    omega
  rw [Char.ofNat, dif_pos hvalid]
  exact UInt32.toNat_ofNatLT ..

theorem toNat_asItIs : asItIs.toNat = 0x10E000 :=
  toNat_ofNat (by decide) (by decide)

theorem point_lt (c : Char) : point c < 0x110000 := by
  have hlt := (toNat_cases c).2
  unfold point
  split_ifs <;> omega

/-! ### Spelling -/

theorem isPrivate_iff : isPrivate n = true ↔ 0x10D800 ≤ n ∧ n ≤ 0x10E000 := by
  simp [isPrivate]

/-- A code point that is no surrogate is the number of the character that stands for it. -/
theorem toNat_symbol (h : isSurrogate n = false) (hn : n < 0x110000) : (symbol n).toNat = n := by
  rw [symbol, if_neg (Bool.eq_false_iff.mp h)]
  exact toNat_ofNat h hn

/-- A character of its own stands for every surrogate. -/
theorem toNat_symbol_of_isSurrogate (h : isSurrogate n = true) :
    (symbol n).toNat = privateShift + n := by
  have hshift : privateShift = 0x100000 := rfl
  rw [symbol, if_pos h]
  rw [isSurrogate_iff] at h
  refine toNat_ofNat ?_ (by omega)
  rw [Bool.eq_false_iff, Ne, isSurrogate_iff]
  omega

/-- A code point is spelled by one character that stands for it, or by two. -/
theorem spelled_cases (hn : n < 0x110000) :
    (∃ c, spelled n = [c] ∧ c ≠ asItIs ∧ point c = n) ∨
      ∃ c, spelled n = [asItIs, c] ∧ isPrivate c.toNat = true ∧ c.toNat = n := by
  have hne : (symbol n).toNat ≠ 0x10E000 → symbol n ≠ asItIs := fun h heq =>
    h (heq ▸ toNat_asItIs)
  unfold spelled
  by_cases hsurrogate : isSurrogate n = true
  · have hbounds := isSurrogate_iff.mp hsurrogate
    have hshift : privateShift = 0x100000 := rfl
    have hnumber := toNat_symbol_of_isSurrogate hsurrogate
    have hplain : ¬ isPrivate n = true := by
      rw [isPrivate_iff]
      omega
    have hprivate : isPrivate (privateShift + n) = true := by
      rw [isPrivate_iff]
      omega
    rw [if_neg hplain]
    have hother := hne (by omega)
    refine Or.inl ⟨_, rfl, hother, ?_⟩
    rw [point, hnumber, hprivate, decide_eq_true hother, Bool.and_true, if_pos rfl,
      Nat.add_sub_cancel_left]
  · have hnumber := toNat_symbol (Bool.eq_false_iff.mpr hsurrogate) hn
    by_cases hprivate : isPrivate n = true
    · rw [if_pos hprivate]
      exact Or.inr ⟨_, rfl, by rw [hnumber, hprivate], hnumber⟩
    · rw [if_neg hprivate]
      refine Or.inl ⟨_, rfl, hne ?_, ?_⟩
      · rw [isPrivate_iff] at hprivate
        omega
      · rw [point, hnumber, Bool.eq_false_iff.mpr hprivate, Bool.false_and,
          if_neg Bool.false_ne_true]

theorem points_cons_of_ne (hc : c ≠ asItIs) (cs : List Char) :
    points (c :: cs) = point c :: points cs := by
  cases cs with
  | nil => rfl
  | cons d cs => rw [points, decide_eq_false hc, Bool.false_and, if_neg Bool.false_ne_true]

theorem points_asItIs (hc : isPrivate c.toNat = true) (cs : List Char) :
    points (asItIs :: c :: cs) = c.toNat :: points cs := by
  rw [points, decide_eq_true rfl, hc, Bool.and_true, if_pos rfl]

/-- **The code points of a text are those that it spells.** -/
theorem points_spelling {ns : List ℕ} (h : ∀ n ∈ ns, n < 0x110000) :
    points (spelling ns) = ns := by
  induction ns with
  | nil => rfl
  | cons n ns ih =>
    obtain ⟨hn, hns⟩ := List.forall_mem_cons.mp h
    rw [spelling, List.flatMap_cons]
    rcases spelled_cases hn with ⟨c, hspelled, hc, hpoint⟩ | ⟨c, hspelled, hc, hnumber⟩
    · rw [hspelled, List.singleton_append, points_cons_of_ne hc, hpoint]
      exact congrArg (n :: ·) (ih hns)
    · rw [hspelled, List.cons_append, List.singleton_append, points_asItIs hc, hnumber]
      exact congrArg (n :: ·) (ih hns)

/-- Code points make a whole text if and only if no high surrogate among them stands right before a
low one. -/
theorem isWhole_spelling {ns : List ℕ} (h : ∀ n ∈ ns, n < 0x110000) :
    IsWhole (spelling ns) ↔ ns.IsChain fun h l => ¬ (isHigh h = true ∧ isLow l = true) := by
  rw [IsWhole, points_spelling h]
  exact and_iff_right rfl

/-- A text of characters that stand for themselves is whole. -/
theorem isWhole_spellingOf (cs : List Char) : IsWhole (spellingOf cs) := by
  have hlt : ∀ n ∈ cs.map Char.toNat, n < 0x110000 :=
    List.forall_mem_map.mpr fun c _ => (toNat_cases c).2
  have hhigh : ∀ c d : Char, ¬ (isHigh c.toNat = true ∧ isLow d.toNat = true) := by
    rintro c d ⟨hhigh, -⟩
    have hsurrogate := (toNat_cases c).1
    rw [Bool.eq_false_iff, Ne, isSurrogate_iff] at hsurrogate
    rw [isHigh_iff] at hhigh
    omega
  rw [spellingOf, isWhole_spelling hlt, List.isChain_map]
  exact (List.pairwise_of_forall hhigh).isChain

/-- There are no code points beyond those of characters. -/
theorem lt_of_mem_points {cs : List Char} : ∀ n ∈ points cs, n < 0x110000 := by
  fun_induction points cs with
  | case1 => exact fun _ h => nomatch h
  | case2 c => exact List.forall_mem_singleton.mpr (point_lt c)
  | case3 c d rest h ih => exact List.forall_mem_cons.mpr ⟨(toNat_cases d).2, ih⟩
  | case4 c d rest h ih => exact List.forall_mem_cons.mpr ⟨point_lt c, ih⟩

/-! ### Plain texts -/

/-- Every character of a text stands for itself. -/
def IsPlain (cs : List Char) : Prop :=
  ∀ c ∈ cs, isPrivate c.toNat = false

instance (cs : List Char) : Decidable (IsPlain cs) :=
  List.decidableBAll (fun c : Char => isPrivate c.toNat = false) cs

theorem points_of_isPlain (h : IsPlain cs) : points cs = cs.map Char.toNat := by
  induction cs with
  | nil => rfl
  | cons c cs ih =>
    obtain ⟨hc, hcs⟩ := List.forall_mem_cons.mp h
    have hne : c ≠ asItIs := by
      rintro rfl
      rw [toNat_asItIs] at hc
      cases hc
    rw [points_cons_of_ne hne, ih hcs, point, hc, Bool.false_and, if_neg Bool.false_ne_true,
      List.map_cons]

/-- A plain text can be encoded. -/
theorem inUtf8?_of_isPlain (h : IsPlain cs) : EncodingFault.inUtf8? cs = none := by
  have hall : ((cs.map Char.toNat).takeWhile fun n => !isSurrogate n) = cs.map Char.toNat :=
    List.takeWhile_eq_self_iff.mpr <| List.forall_mem_map.mpr fun c _ => by
      rw [(toNat_cases c).1, Bool.not_false]
  rw [EncodingFault.inUtf8?, EncodingFault.find?, points_of_isPlain h, hall, List.drop_length]
  rfl

/-- What is no empty text has octets. -/
theorem utf8_ne_empty (h : s.toList ≠ []) : utf8 s ≠ .empty := by
  intro hempty
  rw [utf8, String.toUTF8_eq_toByteArray, String.toByteArray_eq_empty_iff] at hempty
  have hpoints : points s.toList = [] := by
    have hlist := congrArg String.toList hempty
    rwa [String.toList_ofList, String.toList_empty, List.map_eq_nil_iff] at hlist
  -- Every character, or every two, give a code point.
  unfold points at hpoints
  split at hpoints
  · exact h ‹_›
  · cases hpoints
  · split at hpoints <;> cases hpoints

theorem isPlain_append (hs : IsPlain s.toList) (ht : IsPlain t.toList) :
    IsPlain (s ++ t).toList := by
  rw [String.toList_append]
  exact List.forall_mem_append.mpr ⟨hs, ht⟩

/-- Plain texts with a plain one between them are plain together. -/
theorem isPlain_intercalate {ss : List String} (hs : IsPlain s.toList)
    (hss : ∀ t ∈ ss, IsPlain t.toList) : IsPlain (s.intercalate ss).toList := by
  rw [String.toList_intercalate]
  induction ss with
  | nil => exact List.forall_mem_nil _
  | cons t ss ih =>
    obtain ⟨ht, hss⟩ := List.forall_mem_cons.mp hss
    cases ss with
    | nil => rwa [List.map_cons, List.map_nil, List.intercalate_singleton]
    | cons u ss =>
      rw [List.map_cons, List.map_cons, List.intercalate_cons_cons, ← List.map_cons]
      exact List.forall_mem_append.mpr ⟨List.forall_mem_append.mpr ⟨ht, hs⟩, ih hss⟩

end ServerActions.Text
