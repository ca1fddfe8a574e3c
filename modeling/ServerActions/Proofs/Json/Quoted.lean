import Mathlib.Tactic.IntervalCases
import Mathlib.Tactic.SplitIfs
import ServerActions.Json.Reader
import ServerActions.Proofs.Entries
import ServerActions.Proofs.Text.Surrogate

/-!
# Quoted strings are read back

A text that is written as a JSON string is read as that text again, and what comes after the string
is left to be read.  So a quoted text is told from what follows it, and two texts are never quoted
alike.  This holds of whole texts; a high surrogate with a low one right after it is read as the
character that the two make up.

## Main results

* `hexUnit?_hex` — four hexadecimal digits denote the number that they are written for.
* `joined_flatMap_codeUnits` — the code units of a whole text are put together to that text.
* `string_quote` — **a quoted text is read back.**
* `read_quote` — so it is as a whole text.
* `isAscii_quote` — what is quoted is written in ASCII.
* `quote_append_inj` — a quoted text is determined by any text that begins with it.
-/

namespace ServerActions.Json

open Text (IsWhole isHigh isHigh_iff isLow isLow_iff points spelled spelling)

/-! ### Hexadecimal digits -/

theorem hexValue?_hexDigit {n : ℕ} (h : n < 16) : Text.hexValue? (Text.hexDigit n) = some n := by
  interval_cases n <;> decide

/-- Four hexadecimal digits denote the number that they are written for. -/
theorem hexUnit?_hex {n : ℕ} (h : n < 0x10000) :
    ∃ a b c d, Text.hex 4 n = [a, b, c, d] ∧ hexUnit? a b c d = some n := by
  refine ⟨Text.hexDigit (n / 16 / 16 / 16 % 16), Text.hexDigit (n / 16 / 16 % 16),
    Text.hexDigit (n / 16 % 16), Text.hexDigit (n % 16), rfl, ?_⟩
  have hdigit : ∀ m, Text.hexValue? (Text.hexDigit (m % 16)) = some (m % 16) :=
    fun m => hexValue?_hexDigit (Nat.mod_lt m (by decide))
  rw [hexUnit?, hdigit, hdigit, hdigit, hdigit]
  refine congrArg some ?_
  omega

/-- The surrogates of a code point are code units. -/
theorem surrogates_lt {n : ℕ} (h : n < 0x110000) :
    (surrogates n).1 < 0x10000 ∧ (surrogates n).2 < 0x10000 := by
  simp only [surrogates]
  omega

/-! ### Code units -/

theorem codeUnits_of_lt {n : ℕ} (h : n < 0x10000) : codeUnits n = [n] :=
  if_pos h

theorem isHigh_surrogates {n : ℕ} (h : ¬ n < 0x10000) (hn : n < 0x110000) :
    isHigh (surrogates n).1 = true ∧ isLow (surrogates n).2 = true := by
  rw [isHigh_iff, isLow_iff]
  simp only [surrogates]
  omega

/-- The surrogates of a code point make it up again. -/
theorem joined_codeUnits_append {n : ℕ} (h : ¬ n < 0x10000) (hn : n < 0x110000) (us : List ℕ) :
    joined (codeUnits n ++ us) = spelled n ++ joined us := by
  obtain ⟨hhigh, hlow⟩ := isHigh_surrogates h hn
  have hpoint :
      0x10000 + ((surrogates n).1 - 0xD800) * 0x400 + ((surrogates n).2 - 0xDC00) = n := by
    simp only [surrogates]
    omega
  rw [codeUnits, if_neg h, List.cons_append, List.cons_append, List.nil_append, joined, hhigh, hlow,
    Bool.and_self, if_pos rfl, hpoint]

/-- A code unit that makes up no character with the next one stays as it is. -/
theorem joined_cons {n : ℕ} {us : List ℕ} (hn : n < 0x10000)
    (h : ∀ u ∈ us.head?, ¬ (isHigh n = true ∧ isLow u = true)) :
    joined (n :: us) = spelled n ++ joined us := by
  have hspelled : spelled n = [Text.symbol n] := by
    refine if_neg ?_
    rw [Text.isPrivate_iff]
    omega
  rw [hspelled]
  cases us with
  | nil => rfl
  | cons u us =>
    have hpair : (isHigh n && isLow u) = false := by
      rw [Bool.eq_false_iff, Ne, Bool.and_eq_true]
      exact h u rfl
    rw [joined, hpair, if_neg Bool.false_ne_true]
    rfl

/-- The first code unit of code points is a low surrogate only if the first of these is. -/
theorem isLow_of_mem_head? {ns : List ℕ} {u : ℕ} (h : u ∈ (ns.flatMap codeUnits).head?)
    (hns : ∀ n ∈ ns, n < 0x110000) (hlow : isLow u = true) : ∃ n ∈ ns.head?, isLow n = true := by
  cases ns with
  | nil => cases h
  | cons n ns =>
    refine ⟨n, rfl, ?_⟩
    rw [List.flatMap_cons] at h
    by_cases hsmall : n < 0x10000
    · rw [codeUnits_of_lt hsmall] at h
      rwa [Option.mem_some_iff.mp h]
    · -- Beyond sixteen bits the first code unit is a high surrogate.
      obtain ⟨hhigh, -⟩ := isHigh_surrogates hsmall (hns n (List.mem_cons_self ..))
      rw [codeUnits, if_neg hsmall] at h
      rw [← Option.mem_some_iff.mp h, isLow_iff] at hlow
      rw [isHigh_iff] at hhigh
      omega

/-- Code points without a pair of surrogates are put together again. -/
theorem joined_flatMap {ns : List ℕ} (hns : ∀ n ∈ ns, n < 0x110000)
    (hchain : ns.IsChain fun h l => ¬ (isHigh h = true ∧ isLow l = true)) :
    joined (ns.flatMap codeUnits) = spelling ns := by
  induction ns with
  | nil => rfl
  | cons n ns ih =>
    obtain ⟨hn, hrest⟩ := List.forall_mem_cons.mp hns
    rw [List.isChain_cons] at hchain
    have hlater := ih hrest hchain.2
    rw [List.flatMap_cons, spelling, List.flatMap_cons]
    by_cases hsmall : n < 0x10000
    · rw [codeUnits_of_lt hsmall, List.singleton_append, joined_cons hsmall, hlater]
      · rfl
      · rintro u hu ⟨hhigh, hlow⟩
        obtain ⟨m, hm, hmlow⟩ := isLow_of_mem_head? hu hrest hlow
        exact hchain.1 m hm ⟨hhigh, hmlow⟩
    · rw [joined_codeUnits_append hsmall hn, hlater]
      rfl

/-- **The code units of a whole text are put together to that text.** -/
theorem joined_flatMap_codeUnits {cs : List Char} (h : IsWhole cs) :
    joined ((points cs).flatMap codeUnits) = cs :=
  (joined_flatMap Text.lt_of_mem_points h.2).trans h.1

/-! ### Strings -/

section

variable {start offset : ℕ} {tail : List Char} {ns : List ℕ} {after : Cursor}

/-- An escape of four digits is read as the code unit that it is written for. -/
theorem stringUnits_unitEscape {n : ℕ} (hn : n < 0x10000)
    (h : stringUnits start (offset + 6) tail = .ok (ns, after)) :
    stringUnits start offset (unitEscape n ++ tail) = .ok (n :: ns, after) := by
  obtain ⟨a, b, c, d, hhex, hunit⟩ := hexUnit?_hex hn
  have htail : tail.isEmpty = false := by
    cases tail with
    | nil => cases h
    | cons c cs => rfl
  rw [unitEscape, hhex]
  simp only [List.cons_append, List.nil_append, stringUnits, hunit, htail, h]
  rfl

/-- An escape of one letter is read as the character that it stands for. -/
theorem stringUnits_escape {c e : Char} (hu : e ≠ 'u') (he : escaped? e = some c)
    (h : stringUnits start (offset + 2) tail = .ok (ns, after)) :
    stringUnits start offset ('\\' :: e :: tail) = .ok (c.toNat :: ns, after) := by
  rw [stringUnits, he]
  · simp only [h]
    rfl
  · exact fun _ _ _ _ _ heq _ => hu heq
  · exact hu

/-- A visible character is read as it stands. -/
theorem stringUnits_visible {c : Char} (hquote : c ≠ '"') (hslash : c ≠ '\\')
    (hvisible : 32 ≤ c.toNat)
    (h : stringUnits start (offset + 1) tail = .ok (ns, after)) :
    stringUnits start offset (c :: tail) = .ok (c.toNat :: ns, after) := by
  rw [stringUnits, if_neg (Nat.not_lt.mpr hvisible), h]
  · rfl
  · exact fun heq => hquote heq
  all_goals simp [hslash]

/-- The letters after a backslash are read as the code points that they stand for. -/
theorem escaped?_of_lookup {n : ℕ} {e : Char} (h : escapeLetters.lookup n = some e) :
    ∃ c, escaped? e = some c ∧ c.toNat = n ∧ e ≠ 'u' ∧ n < 0x10000 := by
  have hall : ∀ p ∈ escapeLetters,
      (escaped? p.2).map Char.toNat = some p.1 ∧ p.2 ≠ 'u' ∧ p.1 < 0x10000 := by decide
  obtain ⟨hread, hu, hsmall⟩ := hall _ (mem_of_lookup h)
  obtain ⟨c, hc, hnumber⟩ := Option.map_eq_some_iff.mp hread
  exact ⟨c, hc, hnumber, hu, hsmall⟩

/-- A code point is written after a backslash with a letter of its own, or as a visible character,
or in digits. -/
theorem quotedPoint_cases (n : ℕ) :
    (∃ c e, quotedPoint n = ['\\', e] ∧ e ≠ 'u' ∧ escaped? e = some c ∧ c.toNat = n ∧
      n < 0x10000) ∨
      (∃ c, quotedPoint n = [c] ∧ c ≠ '"' ∧ c ≠ '\\' ∧ c.toNat = n ∧ 32 ≤ n ∧ n < 127) ∨
      quotedPoint n = (codeUnits n).flatMap unitEscape := by
  unfold quotedPoint
  cases hletter : escapeLetters.lookup n with
  | some e =>
    obtain ⟨c, hc, hnumber, hu, hsmall⟩ := escaped?_of_lookup hletter
    exact Or.inl ⟨c, e, rfl, hu, hc, hnumber, hsmall⟩
  | none =>
    by_cases hvisible : 32 ≤ n ∧ n < 127
    · have hnumber : (Char.ofNat n).toNat = n :=
        Text.toNat_ofNat (by rw [Bool.eq_false_iff, Ne, Text.isSurrogate_iff]; omega) (by omega)
      -- The quote and the backslash have letters of their own.
      have hne : ∀ d : Char, escapeLetters.lookup d.toNat ≠ none → Char.ofNat n ≠ d := by
        rintro d hd rfl
        rw [hnumber] at hd
        exact hd hletter
      exact Or.inr (Or.inl ⟨_, if_pos hvisible, hne '"' (by decide), hne '\\' (by decide), hnumber,
        hvisible⟩)
    · exact Or.inr (Or.inr (if_neg hvisible))

/-- A code point is read as its code units. -/
theorem stringUnits_quotedPoint {n : ℕ} (hn : n < 0x110000)
    (h : stringUnits start (offset + (quotedPoint n).length) tail = .ok (ns, after)) :
    stringUnits start offset (quotedPoint n ++ tail) = .ok (codeUnits n ++ ns, after) := by
  rcases quotedPoint_cases n with ⟨c, e, hquoted, hu, he, rfl, hsmall⟩ |
    ⟨c, hquoted, hquote, hslash, rfl, hvisible, hsmall⟩ | hquoted
  · rw [hquoted] at h ⊢
    rw [codeUnits_of_lt hsmall]
    exact stringUnits_escape hu he h
  · rw [hquoted] at h ⊢
    rw [codeUnits_of_lt (by omega)]
    exact stringUnits_visible hquote hslash hvisible h
  · rw [hquoted] at h ⊢
    by_cases hsmall : n < 0x10000
    · rw [codeUnits_of_lt hsmall] at h ⊢
      exact stringUnits_unitEscape hsmall h
    · have hunits : codeUnits n = [(surrogates n).1, (surrogates n).2] := if_neg hsmall
      obtain ⟨hhigh, hlow⟩ := surrogates_lt hn
      rw [hunits] at h ⊢
      rw [List.flatMap_cons, List.flatMap_singleton, List.append_assoc]
      exact stringUnits_unitEscape hhigh (stringUnits_unitEscape hlow h)

/-- Quoted code points are read up to the closing quote. -/
theorem stringUnits_flatMap {points : List ℕ} (hpoints : ∀ n ∈ points, n < 0x110000)
    (rest : List Char) :
    stringUnits start offset (points.flatMap quotedPoint ++ '"' :: rest)
      = .ok (points.flatMap codeUnits,
          ⟨rest, offset + (points.flatMap quotedPoint).length + 1⟩) := by
  induction points generalizing offset with
  | nil => rw [List.flatMap_nil, List.nil_append, stringUnits, List.flatMap_nil, List.length_nil]
  | cons n points ih =>
    obtain ⟨hn, hrest⟩ := List.forall_mem_cons.mp hpoints
    rw [List.flatMap_cons, List.append_assoc, List.flatMap_cons, List.length_append,
      ← Nat.add_assoc]
    exact stringUnits_quotedPoint hn (ih hrest)

end

/-- **A quoted text is read back**, and the reading goes on after it. -/
theorem string_quote {cs : List Char} (hcs : IsWhole cs) (rest : List Char) (offset : ℕ) :
    string ((⟨quote cs ++ rest, offset⟩ : Cursor).skip 1)
      = .ok (String.ofList cs, ⟨rest, offset + (quote cs).length⟩) := by
  have hquote : quote cs ++ rest = '"' :: ((points cs).flatMap quotedPoint ++ '"' :: rest) := by
    rw [quote, List.append_assoc, List.append_assoc, List.singleton_append, List.singleton_append]
  have hlength : offset + (quote cs).length
      = offset + 1 + ((points cs).flatMap quotedPoint).length + 1 := by
    rw [quote, List.length_append, List.length_append, List.length_singleton]
    omega
  rw [Cursor.skip, string, hquote, List.drop_succ_cons, List.drop_zero, hlength]
  simp only [stringUnits_flatMap Text.lt_of_mem_points]
  exact congrArg (fun cs => Except.ok (String.ofList cs, _)) (joined_flatMap_codeUnits hcs)

/-- **A quoted text is read back as a whole text.** -/
theorem read_quote {cs : List Char} (hcs : IsWhole cs) :
    read (quote cs) = .ok (.str (String.ofList cs)) := by
  have hstring := string_quote hcs [] 0
  rw [List.append_nil, Nat.zero_add] at hstring
  have hvalue : value ((quote cs).length + 1) maxDepth ⟨quote cs, 0⟩
      = .ok (.str (String.ofList cs), ⟨[], (quote cs).length⟩) := by
    have hquote : quote cs = '"' :: ((points cs).flatMap quotedPoint ++ ['"']) := rfl
    rw [hquote] at hstring ⊢
    simp only [value, hstring]
    rfl
  have hspaces : (Cursor.mk (quote cs) 0).skipSpaces = ⟨quote cs, 0⟩ := rfl
  have hmark : (quote cs).head? ≠ some '\uFEFF' := by
    change some '"' ≠ some '\uFEFF'
    decide
  simp only [read, document, if_neg hmark, hspaces, hvalue]
  rfl

/-! ### In ASCII -/

theorem isAscii_hexDigit {n : ℕ} (h : n < 16) : (Text.hexDigit n).toNat < 128 := by
  interval_cases n <;> decide

theorem isAscii_hex (width : ℕ) : ∀ n, ∀ c ∈ Text.hex width n, c.toNat < 128 := by
  induction width with
  | zero => simp [Text.hex]
  | succ width ih =>
    intro n c hc
    rw [Text.hex] at hc
    rcases List.mem_append.mp hc with hc | hc
    · exact ih _ c hc
    · rw [List.mem_singleton.mp hc]
      exact isAscii_hexDigit (Nat.mod_lt n (by decide))

/-- The letters of escapes are in ASCII. -/
theorem isAscii_of_escaped? {c e : Char} (h : escaped? e = some c) : e.toNat < 128 := by
  unfold escaped? at h
  split at h <;> first | decide | cases h

theorem isAscii_quotedPoint (n : ℕ) : ∀ d ∈ quotedPoint n, d.toNat < 128 := by
  have hslash : '\\'.toNat < 128 := by decide
  rcases quotedPoint_cases n with ⟨c, e, hquoted, -, he, -⟩ | ⟨c, hquoted, -, -, rfl, -, hvisible⟩ |
    hquoted
  · rw [hquoted]
    intro d hd
    rcases List.mem_cons.mp hd with rfl | hd
    · exact hslash
    · rw [List.mem_singleton.mp hd]
      exact isAscii_of_escaped? he
  · rw [hquoted]
    intro d hd
    rw [List.mem_singleton.mp hd]
    omega
  · rw [hquoted]
    intro d hd
    obtain ⟨n, -, hd⟩ := List.mem_flatMap.mp hd
    rcases List.mem_append.mp hd with hd | hd
    · rcases List.mem_cons.mp hd with rfl | hd
      · decide
      · rw [List.mem_singleton.mp hd]
        decide
    · exact isAscii_hex 4 n d hd

/-- **A quoted text is written in ASCII.** -/
theorem isAscii_quote (cs : List Char) : ∀ c ∈ quote cs, c.toNat < 128 := by
  have hquote : '"'.toNat < 128 := by decide
  intro c hc
  rw [quote, List.append_assoc] at hc
  rcases List.mem_append.mp hc with hc | hc
  · rw [List.mem_singleton.mp hc]
    exact hquote
  rcases List.mem_append.mp hc with hc | hc
  · obtain ⟨d, -, hd⟩ := List.mem_flatMap.mp hc
    exact isAscii_quotedPoint d c hd
  · rw [List.mem_singleton.mp hc]
    exact hquote

/-! ### Texts told apart -/

/-- A quoted text is determined by any text that begins with it. -/
theorem quote_append_inj {cs ds rest rest' : List Char} (hcs : IsWhole cs) (hds : IsWhole ds)
    (h : quote cs ++ rest = quote ds ++ rest') : cs = ds ∧ rest = rest' := by
  have hread := string_quote hcs rest 0
  rw [h, string_quote hds rest' 0] at hread
  obtain ⟨hsame, hrest⟩ := Prod.mk.inj (Except.ok.inj hread)
  exact ⟨(String.ofList_injective hsame).symm, (Cursor.mk.inj hrest).1.symm⟩

end ServerActions.Json
