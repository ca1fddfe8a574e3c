import ServerActions.Action.Call
import ServerActions.Proofs.Json.Quoted
import ServerActions.Proofs.TypeScript.Reading

/-!
# The keys of properties

A property is written under a key that denotes its name: the name as it is, where that is plain, and
else a JSON string in ASCII that is read as the name.  So a property of a record type has the name
that was given, and so has a parameter of the query, which is a property of one.  This is said of
whole names, in which no two surrogates make up a character; names without any surrogates are such.

There is one exception.  A line feed at the end of an identifier is let pass, and a plain name
before a line feed is written without quotes; what stands there is the key of the name without the
line feed.

## Main definitions

* `IsPlain` — a name that is its own key.
* `IsKeyOf` — a text is the key of a name.
* `BreaksOff` — a name is plain but for a line feed at its end.
* `IsWrittenUnder` — a key is that of a name and of no other, unless the name breaks off.
* `recordUnder` — a record type as it is written, under given keys.

## Main results

* `isIdentifier_iff` — identifiers are plain, but for a line feed.
* `isWrittenUnder_propertyName` — what a property is written under is the key of its name, unless
  that name breaks off.
* `keys_denote` — **keys denote the names of properties**, and of the parameters of the query, with
  that one exception.
-/

namespace ServerActions.TypeScript

open ServerActions.Action (Parameter queryGroup)
open TypeExpr (memberChars memberChars_eq memberText joined)

variable {cs key : List Char} {name : String}

/-! ### Plain names -/

/-- A letter, an underscore or a dollar sign and then more of these and digits, all of them in
ASCII. -/
def IsPlain (cs : List Char) : Prop :=
  ∃ c rest, cs = c :: rest ∧ isNameStart c = true ∧ ∀ d ∈ rest, isNameChar d = true

theorem IsPlain.isNameChar (h : IsPlain cs) : ∀ c ∈ cs, isNameChar c = true := by
  obtain ⟨c, rest, rfl, hc, hrest⟩ := h
  exact List.forall_mem_cons.mpr ⟨(isNameStart_iff.mp hc).1, hrest⟩

/-- A plain name begins with no quote, whatever follows it. -/
theorem IsPlain.head?_append_ne (h : IsPlain cs) (rest : List Char) :
    (cs ++ rest).head? ≠ some '"' := by
  obtain ⟨c, ds, rfl, hc, -⟩ := h
  intro hhead
  exact (ne_of_isNameStart hc).1 (Option.some.inj hhead)

/-- **Identifiers are plain**; one line feed at the end is let pass. -/
theorem isIdentifier_iff :
    isIdentifier cs = true ↔ ∃ plain, IsPlain plain ∧ (cs = plain ∨ cs = plain ++ ['\n']) := by
  cases cs with
  | nil =>
    refine iff_of_false Bool.false_ne_true ?_
    rintro ⟨_, ⟨c, rest, rfl, -⟩, h | h⟩ <;> cases h
  | cons c cs =>
    rw [isIdentifier, Bool.and_eq_true, isNameTail_iff]
    constructor
    · rintro ⟨hc, ds, hds, hcs⟩
      exact ⟨c :: ds, ⟨c, ds, rfl, hc, hds⟩, hcs.imp (congrArg (c :: ·)) (congrArg (c :: ·))⟩
    · rintro ⟨_, ⟨d, ds, rfl, hd, hds⟩, h | h⟩
      · obtain ⟨rfl, rfl⟩ := List.cons.inj h
        exact ⟨hd, cs, hds, Or.inl rfl⟩
      · obtain ⟨rfl, rfl⟩ := List.cons.inj h
        exact ⟨hd, ds, hds, Or.inr rfl⟩

/-- A name is plain but for a line feed at its end. -/
def BreaksOff (name : String) : Prop :=
  ∃ plain, IsPlain plain ∧ name.toList = plain ++ ['\n']

theorem BreaksOff.isIdentifier (h : BreaksOff name) : isIdentifier name.toList = true := by
  obtain ⟨plain, hplain, heq⟩ := h
  exact isIdentifier_iff.mpr ⟨plain, hplain, Or.inr heq⟩

/-- A line feed is no character of a plain name. -/
theorem BreaksOff.not_isPlain (h : BreaksOff name) : ¬ IsPlain name.toList := by
  obtain ⟨plain, -, heq⟩ := h
  intro hplain
  have hfeed : isNameChar '\n' = true := hplain.isNameChar '\n' (by rw [heq]; simp)
  exact absurd hfeed (by decide)

/-! ### Keys -/

/-- A text is the key of a name: the name itself if that is plain, or a JSON string in ASCII that is
read as the name. -/
inductive IsKeyOf (name : List Char) : List Char → Prop
  | plain (h : IsPlain name) : IsKeyOf name name
  | quoted {key : List Char} (hquote : key.head? = some '"') (hascii : ∀ c ∈ key, c.toNat < 128)
      (hread : Json.read key = .ok (.str (String.ofList name))) : IsKeyOf name key

/-- A key is the key of one name. -/
theorem IsKeyOf.unique {name name' : List Char} (h : IsKeyOf name key) (h' : IsKeyOf name' key) :
    name = name' := by
  have hquote : ∀ {cs : List Char}, IsPlain cs → cs.head? ≠ some '"' := by
    intro cs hplain
    simpa using hplain.head?_append_ne []
  cases h with
  | plain hplain =>
    cases h' with
    | plain => rfl
    | quoted hhead' => exact absurd hhead' (hquote hplain)
  | quoted hhead _ hread =>
    cases h' with
    | plain hplain' => exact absurd hhead (hquote hplain')
    | quoted _ _ hread' =>
      exact String.ofList_injective (Value.str.inj (Except.ok.inj (hread.symm.trans hread')))

/-- A name that breaks off is written as it is. -/
theorem propertyName_of_breaksOff (h : BreaksOff name) : propertyName name = name :=
  if_pos h.isIdentifier

/-- A property with a name is written under a key.  That is the key of the name and of no other,
unless the name breaks off; then no name has it. -/
def IsWrittenUnder (name : String) (key : List Char) : Prop :=
  ∀ other, IsKeyOf other key ↔ other = name.toList ∧ ¬ BreaksOff name

/-- A name that breaks off is the key of no name: it is not plain, and begins as an identifier and
so with no quote. -/
theorem BreaksOff.not_isKeyOf (h : BreaksOff name) (other : List Char) :
    ¬ IsKeyOf other name.toList := by
  rintro (hplain | ⟨hquote, -, -⟩)
  · exact h.not_isPlain hplain
  · obtain ⟨plain, hplain, heq⟩ := h
    rw [heq] at hquote
    exact hplain.head?_append_ne ['\n'] hquote

/-- A name that does not break off is plain and written as it is, or written as a JSON string. -/
theorem isKeyOf_propertyName (hname : Text.IsWhole name.toList) (h : ¬ BreaksOff name) :
    IsKeyOf name.toList (propertyName name).toList := by
  rcases propertyName_cases name with ⟨hident, heq, -⟩ | heq
  · obtain ⟨plain, hplain, hsame | hsame⟩ := isIdentifier_iff.mp hident
    · rw [heq, hsame]
      exact .plain hplain
    · exact absurd ⟨plain, hplain, hsame⟩ h
  · have hread := Json.read_quote hname
    have hascii := Json.isAscii_quote name.toList
    rw [← heq] at hread hascii
    have hquote : (propertyName name).toList.head? = some '"' := by
      rw [heq]
      rfl
    exact .quoted hquote hascii hread

/-- **What a property is written under is the key of its name**, unless that name breaks off. -/
theorem isWrittenUnder_propertyName (hname : Text.IsWhole name.toList) :
    IsWrittenUnder name (propertyName name).toList := by
  intro other
  constructor
  · intro hkey
    have hgoesOn : ¬ BreaksOff name := by
      intro hbreak
      rw [propertyName_of_breaksOff hbreak] at hkey
      exact hbreak.not_isKeyOf other hkey
    exact ⟨hkey.unique (isKeyOf_propertyName hname hgoesOn), hgoesOn⟩
  · rintro ⟨rfl, hgoesOn⟩
    exact isKeyOf_propertyName hname hgoesOn

/-! ### Records and the query -/

/-- A record type as it is written with its properties under given keys, of which each stands before
the mark of a property that may be missing, a colon and the type. -/
def recordUnder (keys : List (List Char)) (ms : List (Member TypeExpr)) : List Char :=
  ['\x7b'] ++ joined "; ".toList (List.zipWith
    (fun key m => key ++ (if m.optional then ['?'] else []) ++ ": ".toList ++ m.type.chars) keys ms)
    ++ ['\x7d']

/-- The keys under which the properties of a record type are written. -/
def memberKeys (ms : List (Member TypeExpr)) : List (List Char) :=
  ms.map fun m => (propertyName m.name).toList

theorem chars_record (ms : List (Member TypeExpr)) :
    (TypeExpr.record ms).chars = recordUnder (memberKeys ms) ms := by
  have hzip : List.zipWith (fun key (m : Member TypeExpr) =>
      key ++ (if m.optional then ['?'] else []) ++ ": ".toList ++ m.type.chars) (memberKeys ms) ms
      = ms.map memberText := by
    rw [memberKeys, List.zipWith_map_left, List.zipWith_self]
    rfl
  have hchars : (TypeExpr.record ms).chars
      = ['\x7b'] ++ joined "; ".toList (memberChars ms) ++ ['\x7d'] := rfl
  rw [hchars, memberChars_eq, recordUnder, hzip]

/-- Each property of a record type is written under its key. -/
theorem forall₂_memberKeys (ms : List (Member TypeExpr)) :
    List.Forall₂ (fun m key => Text.IsWhole m.name.toList → IsWrittenUnder m.name key) ms
      (memberKeys ms) := by
  induction ms with
  | nil => exact .nil
  | cons m ms ih => exact .cons isWrittenUnder_propertyName ih

/-- **Keys denote the names of properties**, one name each, where no two surrogates in a name make
up a character, and unless a name breaks off, which is written as it is: so do those of a record
type, and of the type of the query, whose properties are its parameters. -/
theorem keys_denote (name : String) (ms : List (Member TypeExpr)) (ps : List Parameter) :
    (Text.IsWhole name.toList → IsWrittenUnder name (propertyName name).toList) ∧
      (BreaksOff name → propertyName name = name) ∧
      (∃ keys, (TypeExpr.record ms).chars = recordUnder keys ms ∧
        List.Forall₂ (fun m key => Text.IsWhole m.name.toList → IsWrittenUnder m.name key) ms
          keys) ∧
      ∃ (qs : List (Member TypeExpr)) (keys : List (List Char)),
        qs.map Member.name = ps.map Parameter.name ∧
        (queryGroup ps).toList = "query: ".toList ++ recordUnder keys qs ∧
        List.Forall₂ (fun m key => Text.IsWhole m.name.toList → IsWrittenUnder m.name key) qs
          keys := by
  refine ⟨isWrittenUnder_propertyName, propertyName_of_breaksOff,
    ⟨memberKeys ms, chars_record ms, forall₂_memberKeys ms⟩, ?_⟩
  let qs : List (Member TypeExpr) := ps.map fun p => ⟨p.name, p.type, !p.required⟩
  refine ⟨qs, memberKeys qs, ?_, ?_, forall₂_memberKeys qs⟩
  · rw [List.map_map]
    rfl
  · have htext : (TypeExpr.record qs).text.toList = recordUnder (memberKeys qs) qs := by
      rw [TypeExpr.text, String.toList_ofList, chars_record]
    rw [queryGroup, String.toList_append, htext]

theorem breaksOff_feed : BreaksOff "id\n" :=
  ⟨['i', 'd'], ⟨'i', ['d'], rfl, by decide, List.all_eq_true.mp (by decide)⟩, rfl⟩

/-- A name in quotes has a key, and a plain one before a line feed has none. -/
theorem keys_denote_feed :
    IsKeyOf "pet-é\n".toList (propertyName "pet-é\n").toList ∧
      (propertyName "pet-é\n").toList = "\"pet-\\u00e9\\n\"".toList ∧
      BreaksOff "id\n" ∧ propertyName "id\n" = "id\n" ∧
      ¬ IsKeyOf "id\n".toList (propertyName "id\n").toList := by
  have hdash : ¬ BreaksOff "pet-é\n" := by
    rintro hname
    exact absurd hname.isIdentifier (by decide)
  obtain ⟨hquoted, -⟩ := keys_denote "pet-é\n" [] []
  obtain ⟨hfeed, hbare, -⟩ := keys_denote "id\n" [] []
  exact ⟨(hquoted (by decide) _).mpr ⟨rfl, hdash⟩, by decide, breaksOff_feed,
    hbare breaksOff_feed, fun h => ((hfeed (by decide) _).mp h).2 breaksOff_feed⟩

/-- **Not every property is written under a key of its name**, even without surrogates in it. -/
theorem not_isKeyOf_propertyName_feed :
    ¬ ∀ name : String, Text.hasSurrogates name.toList = false →
      IsKeyOf name.toList (propertyName name).toList := by
  intro h
  have hname : (propertyName "id\n").toList = ['i', 'd', '\n'] := by decide
  have hkey : IsKeyOf ['i', 'd', '\n'] (propertyName "id\n").toList := h "id\n" (by decide)
  rw [hname] at hkey
  cases hkey with
  | plain hplain => exact absurd (hplain.isNameChar '\n' (by decide)) (by decide)
  | quoted hquote => exact absurd hquote (by decide)

end ServerActions.TypeScript
