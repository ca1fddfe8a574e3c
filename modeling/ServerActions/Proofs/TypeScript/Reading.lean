import ServerActions.Proofs.Json.Quoted
import ServerActions.Proofs.TypeScript.Identifier
import ServerActions.Proofs.TypeScript.Meaning

/-!
# Type expressions can be read in one way

A type expression that is made as those of schemas are is determined by its text.  The names of
properties may hold any characters, but they are in quotes then; the members of a union or an
intersection are in parentheses where they are one themselves; and everything that is opened is
closed.  So at each place the text says how it goes on.  Only two surrogates next to one another in
a name cannot be told from the character that they make up, so there are none in the names here.

## Main definitions

* `TypeExpr.Proper` — unions and intersections have two members at least, the properties of a record
  have distinct names, and only certain types have names of their own.
* `TypeExpr.WholeNames` — no two surrogates make up a character in the names of the properties.
* `ReadsAlone`, `ReadsUpTo` — a type is determined by any text that begins with it, as a member of a
  union or before one of the characters that end a type.

## Main results

* `propertyName_append_inj` — the name of a property is determined by the text that begins with it.
* `reads_of_legible` — **a type is determined by its text** and by what may come after it.
* `eq_of_text_eq`, `eq_of_text_orNull_eq` — types are the same when they are written alike, as they
  are or as those of a call's result.
-/

namespace ServerActions.TypeScript

namespace TypeExpr

/-! ### Types as they are made from schemas -/

/-- The names of their own that types of schemas have. -/
def schemaNames : List String := ["string", "number", "boolean", "any", "unknown"]

/-- The names of their own that types of results have. -/
def resultNames : List String := "null" :: schemaNames

/-- How a type is made at its outermost. -/
def IsMade (names : List String) : TypeExpr → Prop
  | .prim name => name ∈ names
  | .record ms => (ms.map Member.name).Nodup
  | .union ts => 2 ≤ ts.length
  | .inter ts => 2 ≤ ts.length
  | .array _ => True
  | .map _ => True

/-- All parts of a type are made so. -/
def Proper (names : List String) (t : TypeExpr) : Prop :=
  ∀ u, PartOf u t → u.IsMade names

section

variable {names : List String} {t : TypeExpr} {ts : List TypeExpr} {ms : List (Member TypeExpr)}
  {name : String}

theorem Proper.isMade (h : t.Proper names) : t.IsMade names :=
  h t .refl

theorem Proper.mono {names' : List String} (h : t.Proper names) (hsub : names ⊆ names') :
    t.Proper names' := by
  intro u hu
  have hmade := h u hu
  cases u with
  | prim name => exact hsub hmade
  | _ => exact hmade

theorem proper_prim : (TypeExpr.prim name).Proper names ↔ name ∈ names := by
  refine ⟨Proper.isMade, fun h u hu => ?_⟩
  cases hu
  exact h

theorem proper_array : (TypeExpr.array t).Proper names ↔ t.Proper names := by
  refine ⟨fun h u hu => h u (.array hu), fun h u hu => ?_⟩
  cases hu with
  | refl => trivial
  | array hu => exact h u hu

theorem proper_map : (TypeExpr.map t).Proper names ↔ t.Proper names := by
  refine ⟨fun h u hu => h u (.map hu), fun h u hu => ?_⟩
  cases hu with
  | refl => trivial
  | map hu => exact h u hu

theorem proper_record : (TypeExpr.record ms).Proper names ↔
    (ms.map Member.name).Nodup ∧ ∀ m ∈ ms, m.type.Proper names := by
  refine ⟨fun h => ⟨h.isMade, fun m hm u hu => h u (.record hm hu)⟩, fun ⟨hnames, h⟩ u hu => ?_⟩
  cases hu with
  | refl => exact hnames
  | record hm hu => exact h _ hm u hu

theorem proper_union : (TypeExpr.union ts).Proper names ↔
    2 ≤ ts.length ∧ ∀ t ∈ ts, t.Proper names := by
  refine ⟨fun h => ⟨h.isMade, fun t ht u hu => h u (.union ht hu)⟩, fun ⟨hlen, h⟩ u hu => ?_⟩
  cases hu with
  | refl => exact hlen
  | union ht hu => exact h _ ht u hu

theorem proper_inter : (TypeExpr.inter ts).Proper names ↔
    2 ≤ ts.length ∧ ∀ t ∈ ts, t.Proper names := by
  refine ⟨fun h => ⟨h.isMade, fun t ht u hu => h u (.inter ht hu)⟩, fun ⟨hlen, h⟩ u hu => ?_⟩
  cases hu with
  | refl => exact hlen
  | inter ht hu => exact h _ ht u hu

end

/-! ### Induction along the parts -/

/-- The types of which a type is made. -/
def parts : TypeExpr → List TypeExpr
  | .prim _ => []
  | .array t => [t]
  | .map t => [t]
  | .record ms => ms.map Member.type
  | .union ts => ts
  | .inter ts => ts

theorem sizeOf_lt_of_mem_parts {t u : TypeExpr} (h : u ∈ t.parts) : sizeOf u < sizeOf t := by
  cases t with
  | prim name => cases h
  | array t =>
    obtain rfl := List.mem_singleton.mp h
    simp
  | map t =>
    obtain rfl := List.mem_singleton.mp h
    simp
  | record ms =>
    obtain ⟨m, hm, rfl⟩ := List.mem_map.mp h
    have hlist : sizeOf m < sizeOf ms := List.sizeOf_lt_of_mem hm
    have htype : sizeOf m.type < sizeOf m := by
      obtain ⟨name, type, optional⟩ := m
      change sizeOf type < sizeOf (Member.mk name type optional)
      rw [Member.mk.sizeOf_spec]
      omega
    simp only [record.sizeOf_spec]
    omega
  | union ts =>
    have hlist : sizeOf u < sizeOf ts := List.sizeOf_lt_of_mem h
    simp only [union.sizeOf_spec]
    omega
  | inter ts =>
    have hlist : sizeOf u < sizeOf ts := List.sizeOf_lt_of_mem h
    simp only [inter.sizeOf_spec]
    omega

/-- **Induction on a type along the types of which it is made.** -/
theorem parts_induction {P : TypeExpr → Prop} (h : ∀ t, (∀ u ∈ t.parts, P u) → P t)
    (t : TypeExpr) : P t :=
  h t fun u hu =>
    have : sizeOf u < sizeOf t := sizeOf_lt_of_mem_parts hu
    parts_induction h u
termination_by sizeOf t

/-- The parts of what a type is made of are parts of the type. -/
theorem partOf_of_mem_parts {t u w : TypeExpr} (hu : u ∈ t.parts) (h : PartOf w u) :
    PartOf w t := by
  cases t with
  | prim name => cases hu
  | array t => exact .array (List.mem_singleton.mp hu ▸ h)
  | map t => exact .map (List.mem_singleton.mp hu ▸ h)
  | record ms =>
    obtain ⟨m, hm, rfl⟩ := List.mem_map.mp hu
    exact .record hm h
  | union ts => exact .union hu h
  | inter ts => exact .inter hu h

/-! ### Names of properties in types -/

/-- The names of all properties in a type are whole. -/
def WholeNames (t : TypeExpr) : Prop :=
  ∀ ms, PartOf (.record ms) t → ∀ m ∈ ms, Text.IsWhole m.name.toList

theorem wholeNames_prim (name : String) : (prim name).WholeNames := by
  rintro ms ⟨⟩

theorem wholeNames_union {ts : List TypeExpr} :
    (union ts).WholeNames ↔ ∀ t ∈ ts, t.WholeNames := by
  refine ⟨fun h t ht ms hms => h ms (.union ht hms), fun h ms hms => ?_⟩
  cases hms with
  | union ht hms => exact h _ ht ms hms

/-- A type of a result is made properly, and has whole names. -/
structure Legible (t : TypeExpr) : Prop where
  proper : t.Proper resultNames
  whole : t.WholeNames

theorem Legible.of_mem_parts {t u : TypeExpr} (h : t.Legible) (hu : u ∈ t.parts) : u.Legible :=
  ⟨fun w hw => h.proper w (partOf_of_mem_parts hu hw),
    fun ms hms => h.whole ms (partOf_of_mem_parts hu hms)⟩

/-! ### How types are written -/

/-- The characters of a member of a union or an intersection. -/
def grouped (t : TypeExpr) : List Char :=
  if t.isCompound then ['('] ++ chars t ++ [')'] else chars t

/-- The characters of a property of a record. -/
def memberText (m : Member TypeExpr) : List Char :=
  (propertyName m.name).toList ++ (if m.optional then ['?'] else []) ++ ": ".toList ++ chars m.type

theorem groupChars_cons (t : TypeExpr) (ts : List TypeExpr) :
    groupChars (t :: ts) = grouped t :: groupChars ts := rfl

theorem groupChars_eq (ts : List TypeExpr) : groupChars ts = ts.map grouped := by
  induction ts with
  | nil => rfl
  | cons t ts ih => rw [groupChars_cons, ih, List.map_cons]

theorem memberChars_cons (m : Member TypeExpr) (ms : List (Member TypeExpr)) :
    memberChars (m :: ms) = memberText m :: memberChars ms := rfl

theorem memberChars_eq (ms : List (Member TypeExpr)) : memberChars ms = ms.map memberText := by
  induction ms with
  | nil => rfl
  | cons m ms ih => rw [memberChars_cons, ih, List.map_cons]

theorem grouped_of_not_compound {t : TypeExpr} (h : t.isCompound = false) : t.grouped = t.chars :=
  if_neg (by simp [h])

theorem chars_union (ts : List TypeExpr) :
    chars (.union ts) = joined " | ".toList (ts.map grouped) := by
  rw [← groupChars_eq]
  rfl

theorem chars_inter (ts : List TypeExpr) :
    chars (.inter ts) = joined " & ".toList (ts.map grouped) := by
  rw [← groupChars_eq]
  rfl

/-- The members of a union or an intersection; any other type stands alone. -/
def alternatives : TypeExpr → List TypeExpr
  | .union ts => ts
  | .inter ts => ts
  | t => [t]

/-- What is written between the members. -/
def separator : TypeExpr → List Char
  | .inter _ => " & ".toList
  | _ => " | ".toList

/-- Every type is written as its members with what is between them. -/
theorem chars_eq_joined (t : TypeExpr) :
    chars t = joined t.separator (t.alternatives.map grouped) := by
  cases t with
  | union ts => exact chars_union ts
  | inter ts => exact chars_inter ts
  | _ => exact (grouped_of_not_compound rfl).symm

/-- A type has two members or more, or stands alone. -/
theorem alternatives_cases {names : List String} {t : TypeExpr} (h : t.Proper names) :
    (t.isCompound = false ∧ t.alternatives = [t]) ∨
      t.isCompound = true ∧ t.alternatives = t.parts ∧ 2 ≤ t.alternatives.length := by
  cases t with
  | union ts => exact Or.inr ⟨rfl, rfl, (proper_union.mp h).1⟩
  | inter ts => exact Or.inr ⟨rfl, rfl, (proper_inter.mp h).1⟩
  | _ => exact Or.inl ⟨rfl, rfl⟩

/-- A type is determined by its members and by what is between them. -/
theorem eq_of_alternatives_eq {names : List String} {t u : TypeExpr} (ht : t.Proper names)
    (hu : u.Proper names) (h : t.alternatives = u.alternatives)
    (hsep : 2 ≤ t.alternatives.length → t.separator = u.separator) : t = u := by
  have hbars : " | ".toList ≠ " & ".toList := by decide
  -- A type is its only member or has two and more, so the numbers of members tell these apart.
  rcases alternatives_cases ht with ⟨-, htalone⟩ | ⟨htcompound, -, htlen⟩ <;>
    rcases alternatives_cases hu with ⟨-, hualone⟩ | ⟨hucompound, -, hulen⟩
  · rw [htalone, hualone] at h
    exact List.singleton_inj.mp h
  · rw [← h, htalone] at hulen
    exact absurd hulen (by simp)
  · rw [h, hualone] at htlen
    exact absurd htlen (by simp)
  · have hsep := hsep htlen
    cases t with
    | union ts =>
      cases u with
      | union us => exact congrArg _ h
      | inter us => exact absurd hsep hbars
      | _ => cases hucompound
    | inter ts =>
      cases u with
      | union us => exact absurd hsep.symm hbars
      | inter us => exact congrArg _ h
      | _ => cases hucompound
    | _ => cases htcompound

end TypeExpr

/-! ### Texts put together -/

/-- What is written before a character that does not occur in it is determined by the whole. -/
theorem append_inj_of_stop {P : Char → Prop} {before before' after after' : List Char}
    (hbefore : ∀ c ∈ before, P c) (hbefore' : ∀ c ∈ before', P c)
    (hafter : ∀ c, after.head? = some c → ¬ P c) (hafter' : ∀ c, after'.head? = some c → ¬ P c)
    (h : before ++ after = before' ++ after') : before = before' ∧ after = after' := by
  rcases List.append_eq_append_iff.mp h with ⟨more, rfl, rfl⟩ | ⟨more, rfl, rfl⟩
  · cases more with
    | nil => exact ⟨(List.append_nil _).symm, rfl⟩
    | cons c more => exact absurd (hbefore' c (by simp)) (hafter c rfl)
  · cases more with
    | nil => exact ⟨List.append_nil _, rfl⟩
    | cons c more => exact absurd (hbefore c (by simp)) (hafter' c rfl)

section

variable {α : Type} {item : α → List Char} {A : List Char → Prop}
  {separator separator' rest rest' : List Char} {as bs : List α}

theorem joined_cons_cons (a b : α) (as : List α) :
    TypeExpr.joined separator ((a :: b :: as).map item)
      = item a ++ (separator ++ TypeExpr.joined separator ((b :: as).map item)) := by
  rw [List.map_cons, List.map_cons, TypeExpr.joined, List.append_assoc, ← List.map_cons]
  exact fun h => nomatch h

/-- Items are determined by their texts put together, when each is determined by what begins with
its text and what comes after it is in `A`. -/
theorem joined_append_inj (hlen : separator.length = separator'.length)
    (hitem : ∀ a ∈ as, ∀ b ∈ bs, ∀ r r', A r → A r' → item a ++ r = item b ++ r' →
      a = b ∧ r = r')
    (hsep : ∀ r, A (separator ++ r)) (hsep' : ∀ r, A (separator' ++ r))
    (hrest : A rest) (hrest' : A rest') (hend : ∀ r, rest ≠ separator' ++ r)
    (hend' : ∀ r, rest' ≠ separator ++ r) (has : as ≠ []) (hbs : bs ≠ [])
    (h : TypeExpr.joined separator (as.map item) ++ rest
      = TypeExpr.joined separator' (bs.map item) ++ rest') :
    as = bs ∧ rest = rest' ∧ (2 ≤ as.length → separator = separator') := by
  induction as generalizing bs with
  | nil => exact absurd rfl has
  | cons a as ih =>
    obtain ⟨b, bs, rfl⟩ := List.exists_cons_of_ne_nil hbs
    have hfirst := hitem a (List.mem_cons_self ..) b (List.mem_cons_self ..)
    -- Where only one of the two texts goes on, what is left would begin with a separator.
    cases as with
    | nil =>
      cases bs with
      | nil =>
        obtain ⟨rfl, rfl⟩ := hfirst _ _ hrest hrest' h
        exact ⟨rfl, rfl, fun hle => absurd hle (by simp)⟩
      | cons b' bs =>
        rw [joined_cons_cons, List.append_assoc, List.append_assoc] at h
        exact absurd (hfirst _ _ hrest (hsep' _) h).2 (hend _)
    | cons a' as =>
      cases bs with
      | nil =>
        rw [joined_cons_cons, List.append_assoc, List.append_assoc] at h
        exact absurd (hfirst _ _ (hsep _) hrest' h).2.symm (hend' _)
      | cons b' bs =>
        rw [joined_cons_cons, joined_cons_cons, List.append_assoc, List.append_assoc,
          List.append_assoc, List.append_assoc] at h
        obtain ⟨rfl, hafter⟩ := hfirst _ _ (hsep _) (hsep' _) h
        obtain ⟨rfl, hafter⟩ := List.append_inj hafter hlen
        obtain ⟨htail, hrests, -⟩ := ih (fun c hc d hd => hitem c (List.mem_cons_of_mem _ hc) d
          (List.mem_cons_of_mem _ hd)) (by simp) (by simp) hafter
        exact ⟨by rw [htail], hrests, fun _ => rfl⟩

end

/-! ### Names of properties -/

theorem ne_of_isNameStart {c : Char} (h : isNameStart c = true) : c ≠ '"' ∧ c ≠ '\x7d' := by
  constructor <;>
  · rintro rfl
    exact absurd h (by decide)

/-- The name of a property begins with a quote, or as an identifier. -/
theorem propertyName_cases (name : String) :
    (isIdentifier name.toList = true ∧ (propertyName name).toList = name.toList ∧
        ∃ c, name.toList.head? = some c ∧ isNameStart c = true) ∨
      (propertyName name).toList = Json.quote name.toList := by
  unfold propertyName
  split_ifs with h
  · refine Or.inl ⟨h, rfl, ?_⟩
    cases hname : name.toList with
    | nil =>
      rw [hname] at h
      cases h
    | cons c cs =>
      rw [hname] at h
      exact ⟨c, rfl, (Bool.and_eq_true_iff.mp h).1⟩
  · exact Or.inr String.toList_ofList

/-- **The name of a property is determined by the text that begins with it**, before a question mark
or a colon. -/
theorem propertyName_append_inj {name name' : String} {rest rest' : List Char}
    (hwhole : Text.IsWhole name.toList) (hwhole' : Text.IsWhole name'.toList)
    (hrest : ∀ c, rest.head? = some c → c = '?' ∨ c = ':')
    (hrest' : ∀ c, rest'.head? = some c → c = '?' ∨ c = ':')
    (h : (propertyName name).toList ++ rest = (propertyName name').toList ++ rest') :
    name = name' ∧ rest = rest' := by
  have hstop : ∀ rest : List Char, (∀ c, rest.head? = some c → c = '?' ∨ c = ':') →
      ∀ c, rest.head? = some c → ¬ (isNameChar c = true ∨ c = '\n') := by
    intro rest hrest c hc
    rcases hrest c hc with rfl | rfl <;> decide
  have hchars : ∀ name : String, isIdentifier name.toList = true →
      ∀ c ∈ name.toList, isNameChar c = true ∨ c = '\n' :=
    fun name hname c hc => (isNameChar_of_isIdentifier hname c hc).imp_right And.left
  -- A quote does not begin an identifier.
  have hquote : ∀ (name name' : String) (rest rest' : List Char) (c : Char),
      name.toList.head? = some c → isNameStart c = true →
        name.toList ++ rest ≠ Json.quote name'.toList ++ rest' := by
    intro name name' rest rest' c hhead hstart heq
    have hhead' := congrArg List.head? heq
    rw [List.head?_append, hhead, Option.some_or] at hhead'
    exact (ne_of_isNameStart hstart).1 (Option.some.inj hhead')
  rcases propertyName_cases name with ⟨hident, heq, c, hhead, hstart⟩ | heq <;>
    rcases propertyName_cases name' with ⟨hident', heq', c', hhead', hstart'⟩ | heq' <;>
      rw [heq, heq'] at h
  · obtain ⟨hname, hrests⟩ := append_inj_of_stop (hchars name hident) (hchars name' hident')
      (hstop rest hrest) (hstop rest' hrest') h
    exact ⟨String.toList_inj.mp hname, hrests⟩
  · exact absurd h (hquote _ _ _ _ c hhead hstart)
  · exact absurd h.symm (hquote _ _ _ _ c' hhead' hstart')
  · obtain ⟨hname, hrests⟩ := Json.quote_append_inj hwhole hwhole' h
    exact ⟨String.toList_inj.mp hname, hrests⟩

/-- No name of a property begins with the brace that ends a record. -/
theorem head?_propertyName (name : String) :
    ∃ c, (propertyName name).toList.head? = some c ∧ c ≠ '\x7d' := by
  rcases propertyName_cases name with ⟨-, heq, c, hhead, hstart⟩ | heq
  · exact ⟨c, heq ▸ hhead, (ne_of_isNameStart hstart).2⟩
  · exact ⟨'"', by rw [heq]; rfl, by decide⟩

namespace TypeExpr

/-! ### How types begin -/

/-- The forms of types that are told apart where they begin. -/
inductive Form
  | named (name : String)
  | array
  | map
  | record
  | group
  deriving DecidableEq

/-- How a type of a form begins. -/
def Form.opening : Form → List Char
  | .named name => name.toList
  | .array => "Array<".toList
  | .map => "Record<string, ".toList
  | .record => ['\x7b']
  | .group => ['(']

/-- The form that a type has as a member of a union or an intersection. -/
def form : TypeExpr → Form
  | .prim name => .named name
  | .array _ => .array
  | .map _ => .map
  | .record _ => .record
  | .union _ => .group
  | .inter _ => .group

/-- What is written of a member after it began. -/
def inside : TypeExpr → List Char
  | .prim _ => []
  | .array t => chars t ++ ['>']
  | .map t => chars t ++ ['>']
  | .record ms => joined "; ".toList (ms.map memberText) ++ ['\x7d']
  | .union ts => chars (.union ts) ++ [')']
  | .inter ts => chars (.inter ts) ++ [')']

theorem isCompound_iff (t : TypeExpr) : t.isCompound = true ↔ t.form = .group := by
  cases t <;> simp [isCompound, form]

theorem inside_of_compound {t : TypeExpr} (h : t.isCompound = true) :
    t.inside = t.chars ++ [')'] := by
  cases t with
  | union ts => rfl
  | inter ts => rfl
  | _ => cases h

theorem grouped_eq (t : TypeExpr) : t.grouped = t.form.opening ++ t.inside := by
  cases t with
  | prim name => exact (List.append_nil _).symm
  | array t => exact List.append_assoc ..
  | map t => exact List.append_assoc ..
  | record ms =>
    rw [inside, ← memberChars_eq]
    exact List.append_assoc ..
  | union ts => exact List.append_assoc ..
  | inter ts => exact List.append_assoc ..

/-- The forms of the types of results. -/
def forms : List Form := [.array, .map, .record, .group] ++ resultNames.map .named

theorem form_mem {t : TypeExpr} (h : t.Proper resultNames) : t.form ∈ forms := by
  cases t with
  | prim name => exact List.mem_append_right _ (List.mem_map_of_mem (proper_prim.mp h))
  | _ => exact List.mem_append_left _ (by simp [form])

/-- No form begins as another does. -/
theorem opening_apart : ∀ f ∈ forms, ∀ g ∈ forms,
    f.opening <+: g.opening ∨ g.opening <+: f.opening → f = g := by
  decide

/-- The form of a type is determined by any text that begins as the type does. -/
theorem opening_append_inj {f g : Form} (hf : f ∈ forms) (hg : g ∈ forms) {r r' : List Char}
    (h : f.opening ++ r = g.opening ++ r') : f = g ∧ r = r' := by
  have heq : f = g := opening_apart f hf g hg <|
    List.prefix_or_prefix_of_prefix (List.prefix_append f.opening r)
      (h ▸ List.prefix_append g.opening r')
  subst heq
  exact ⟨rfl, List.append_cancel_left h⟩

/-! ### Reading -/

/-- A text goes on with a character that ends the type before it, or is at its end. -/
def Ends (rest : List Char) : Prop :=
  ∀ c, rest.head? = some c → c ∈ ['>', ')', ';', '\x7d']

theorem ends_nil : Ends [] :=
  fun _ h => nomatch h

theorem ends_cons {c : Char} (h : c ∈ ['>', ')', ';', '\x7d']) (rest : List Char) :
    Ends (c :: rest) := by
  intro d hd
  cases hd
  exact h

/-- No type ends where another member follows. -/
theorem Ends.ne_separator {rest : List Char} (h : Ends rest) (t : TypeExpr) (more : List Char) :
    rest ≠ t.separator ++ more := by
  rintro rfl
  have hhead : (t.separator ++ more).head? = some ' ' := by
    rw [List.head?_append]
    cases t <;> rfl
  exact absurd (h ' ' hhead) (by decide)

/-- A member is determined by any text that begins with it. -/
def ReadsAlone (t : TypeExpr) : Prop :=
  ∀ u : TypeExpr, u.Legible → ∀ r r', t.grouped ++ r = u.grouped ++ r' →
    t = u ∧ r = r'

/-- A type is determined by any text that begins with it and then goes on with a character that
ends a type. -/
def ReadsUpTo (t : TypeExpr) : Prop :=
  ∀ u : TypeExpr, u.Legible → ∀ r r', Ends r → Ends r' → t.chars ++ r = u.chars ++ r' →
    t = u ∧ r = r'

section

variable {t : TypeExpr}

/-- A type is read member by member. -/
theorem readsUpTo_of_readsAlone (ht : t.Legible)
    (halone : ∀ a ∈ t.alternatives, a.ReadsAlone) : t.ReadsUpTo := by
  intro u hu r r' hr hr' h
  have hne : ∀ t : TypeExpr, t.Legible → t.alternatives ≠ [] := by
    intro t ht hnil
    rcases alternatives_cases ht.proper with ⟨-, heq⟩ | ⟨-, -, hlen⟩
    · rw [heq] at hnil
      cases hnil
    · rw [hnil] at hlen
      cases hlen
  have hlegible : ∀ a ∈ u.alternatives, a.Legible := by
    intro a ha
    rcases alternatives_cases hu.proper with ⟨-, heq⟩ | ⟨-, heq, -⟩
    · rw [heq, List.mem_singleton] at ha
      exact ha ▸ hu
    · exact hu.of_mem_parts (heq ▸ ha)
  have hlen : t.separator.length = u.separator.length := by
    have hthree : ∀ t : TypeExpr, t.separator.length = 3 := fun t => by cases t <;> rfl
    rw [hthree, hthree]
  rw [chars_eq_joined t, chars_eq_joined u] at h
  obtain ⟨halternatives, hrest, hsep⟩ := joined_append_inj (A := fun _ => True) hlen
    (fun a ha b hb r r' _ _ => halone a ha b (hlegible b hb) r r') (fun _ => trivial)
    (fun _ => trivial) trivial trivial (hr.ne_separator u) (hr'.ne_separator t) (hne t ht)
    (hne u hu) h
  exact ⟨eq_of_alternatives_eq ht.proper hu.proper halternatives hsep, hrest⟩

/-- A property of a record is read as its name and its type. -/
theorem memberText_append_inj {m m' : Member TypeExpr} (hname : Text.IsWhole m.name.toList)
    (hname' : Text.IsWhole m'.name.toList) (htype : m.type.ReadsUpTo) (hm' : m'.type.Legible)
    {r r' : List Char} (hr : Ends r) (hr' : Ends r')
    (h : memberText m ++ r = memberText m' ++ r') : m = m' ∧ r = r' := by
  obtain ⟨name, type, optional⟩ := m
  obtain ⟨name', type', optional'⟩ := m'
  have hcolon : ": ".toList = [':', ' '] := by decide
  have hmark : ∀ (b : Bool) (rest : List Char) (c : Char),
      ((if b then ['?'] else []) ++ (':' :: rest)).head? = some c → c = '?' ∨ c = ':' := by
    intro b rest c hc
    cases b <;> cases hc
    · exact Or.inr rfl
    · exact Or.inl rfl
  simp only [memberText, hcolon, List.append_assoc, List.cons_append, List.nil_append] at h
  obtain ⟨rfl, hafter⟩ :=
    propertyName_append_inj hname hname' (hmark optional _) (hmark optional' _) h
  -- Whether a question mark stands before the colon is seen from its first character.
  have hcut : optional = optional' ∧ type.chars ++ r = type'.chars ++ r' := by
    cases optional <;> cases optional' <;>
      simp only [Bool.false_eq_true, if_false, if_true, List.nil_append, List.cons_append] at hafter
    · exact ⟨rfl, by simpa using hafter⟩
    · simp at hafter
    · simp at hafter
    · exact ⟨rfl, by simpa using hafter⟩
  obtain ⟨rfl, hchars⟩ := hcut
  obtain ⟨rfl, hrest⟩ := htype type' hm' r r' hr hr' hchars
  exact ⟨rfl, hrest⟩

/-- A record that has properties does not end where it begins. -/
theorem close_ne_members (m : Member TypeExpr) (ms : List (Member TypeExpr)) (r r' : List Char) :
    '\x7d' :: r ≠ joined "; ".toList ((m :: ms).map memberText) ++ '\x7d' :: r' := by
  intro heq
  obtain ⟨c, hc, hne⟩ := head?_propertyName m.name
  have hhead : (joined "; ".toList ((m :: ms).map memberText)).head? = some c := by
    cases ms with
    | nil =>
      rw [List.map_singleton, joined, memberText, List.append_assoc, List.append_assoc,
        List.head?_append, hc, Option.some_or]
    | cons m' ms =>
      rw [joined_cons_cons, memberText, List.append_assoc, List.append_assoc, List.append_assoc,
        List.head?_append, hc, Option.some_or]
  have hheads := congrArg List.head? heq
  rw [List.head?_append, hhead, Option.some_or] at hheads
  exact hne (Option.some.inj hheads).symm

/-- The properties of a record are read one by one up to the closing brace. -/
theorem members_append_inj {ms ms' : List (Member TypeExpr)}
    (hms : ∀ m ∈ ms, Text.IsWhole m.name.toList ∧ m.type.ReadsUpTo)
    (hms' : ∀ m ∈ ms', Text.IsWhole m.name.toList ∧ m.type.Legible) {r r' : List Char}
    (h : joined "; ".toList (ms.map memberText) ++ '\x7d' :: r
      = joined "; ".toList (ms'.map memberText) ++ '\x7d' :: r') : ms = ms' ∧ r = r' := by
  have hend : ∀ r more : List Char, '\x7d' :: r ≠ "; ".toList ++ more := by
    intro r more heq
    cases heq
  cases ms with
  | nil =>
    cases ms' with
    | nil => exact ⟨rfl, (List.cons.inj h).2⟩
    | cons m' ms' => exact absurd h (close_ne_members m' ms' r r')
  | cons m ms =>
    cases ms' with
    | nil => exact absurd h.symm (close_ne_members m ms r' r)
    | cons m' ms' =>
      obtain ⟨heq, hrest, -⟩ := joined_append_inj (A := Ends) rfl
        (fun m hm m' hm' r r' => memberText_append_inj (hms m hm).1 (hms' m' hm').1 (hms m hm).2
          (hms' m' hm').2)
        (fun more => ends_cons (by decide) _) (fun more => ends_cons (by decide) _)
        (ends_cons (by decide) r) (ends_cons (by decide) r') (hend r) (hend r') (by simp)
        (by simp) h
      exact ⟨heq, (List.cons.inj hrest).2⟩

/-- A member is read by what it begins with and then by its parts. -/
theorem readsAlone_of_parts (ht : t.Legible) (hparts : ∀ a ∈ t.parts, a.ReadsUpTo)
    (hself : t.isCompound = true → t.ReadsUpTo) : t.ReadsAlone := by
  intro u hu r r' h
  rw [grouped_eq, grouped_eq, List.append_assoc, List.append_assoc] at h
  obtain ⟨hform, hinside⟩ := opening_append_inj (form_mem ht.proper) (form_mem hu.proper) h
  have hcompound : t.isCompound = true → t = u ∧ r = r' := by
    intro hcompound
    have hcompound' := (isCompound_iff u).mpr (hform ▸ (isCompound_iff t).mp hcompound)
    rw [inside_of_compound hcompound, inside_of_compound hcompound', List.append_assoc,
      List.append_assoc] at hinside
    obtain ⟨rfl, hrest⟩ := hself hcompound u hu _ _ (ends_cons (by decide) r)
      (ends_cons (by decide) r') hinside
    exact ⟨rfl, (List.cons.inj hrest).2⟩
  -- The two forms are the same, so only types of one form are left to be compared.
  cases t with
  | prim name =>
    cases u with
    | prim name' =>
      cases hform
      exact ⟨rfl, hinside⟩
    | _ => cases hform
  | array t =>
    cases u with
    | array u =>
      simp only [inside, List.append_assoc, List.singleton_append] at hinside
      obtain ⟨rfl, hrest⟩ := hparts t (List.mem_singleton_self t) u
        (hu.of_mem_parts (List.mem_singleton_self u)) _ _
        (ends_cons (by decide) r) (ends_cons (by decide) r') hinside
      exact ⟨rfl, (List.cons.inj hrest).2⟩
    | _ => cases hform
  | map t =>
    cases u with
    | map u =>
      simp only [inside, List.append_assoc, List.singleton_append] at hinside
      obtain ⟨rfl, hrest⟩ := hparts t (List.mem_singleton_self t) u
        (hu.of_mem_parts (List.mem_singleton_self u)) _ _
        (ends_cons (by decide) r) (ends_cons (by decide) r') hinside
      exact ⟨rfl, (List.cons.inj hrest).2⟩
    | _ => cases hform
  | record ms =>
    cases u with
    | record us =>
      simp only [inside, List.append_assoc, List.singleton_append] at hinside
      obtain ⟨rfl, hrest⟩ := members_append_inj
        (fun m hm => ⟨ht.whole ms .refl m hm, hparts _ (List.mem_map_of_mem hm)⟩)
        (fun m hm => ⟨hu.whole us .refl m hm, hu.of_mem_parts (List.mem_map_of_mem hm)⟩) hinside
      exact ⟨rfl, hrest⟩
    | _ => cases hform
  | union ts => exact hcompound rfl
  | inter ts => exact hcompound rfl

/-- **A type is determined by its text** and by what may come after it. -/
theorem reads_of_legible (t : TypeExpr) : t.Legible → t.ReadsAlone ∧ t.ReadsUpTo := by
  induction t using parts_induction with
  | h t ih =>
    intro ht
    have hparts : ∀ a ∈ t.parts, a.ReadsAlone ∧ a.ReadsUpTo :=
      fun a ha => ih a ha (ht.of_mem_parts ha)
    rcases alternatives_cases ht.proper with ⟨hsimple, heq⟩ | ⟨-, heq, -⟩
    · -- A type that stands alone begins in its own way; a union begins as its first member does.
      have halone : t.ReadsAlone := readsAlone_of_parts ht (fun a ha => (hparts a ha).2)
        fun hcompound => by rw [hsimple] at hcompound; cases hcompound
      refine ⟨halone, readsUpTo_of_readsAlone ht fun a ha => ?_⟩
      rw [heq, List.mem_singleton] at ha
      exact ha ▸ halone
    · have hupto : t.ReadsUpTo :=
        readsUpTo_of_readsAlone ht fun a ha => (hparts a (heq ▸ ha)).1
      exact ⟨readsAlone_of_parts ht (fun a ha => (hparts a ha).2) fun _ => hupto, hupto⟩

end

/-- Types that are written alike are the same. -/
theorem eq_of_text_eq {t u : TypeExpr} (ht : t.Legible) (hu : u.Legible) (h : t.text = u.text) :
    t = u := by
  have hchars : t.chars ++ [] = u.chars ++ [] := by
    rw [List.append_nil, List.append_nil]
    exact String.ofList_injective h
  exact ((reads_of_legible t ht).2 u hu [] [] ends_nil ends_nil hchars).1

/-! ### The types of results -/

theorem Proper.orNull {t : TypeExpr} (h : t.Proper schemaNames) : t.orNull.Proper resultNames := by
  have hsub : schemaNames ⊆ resultNames := List.subset_cons_self ..
  have hnull : null.Proper resultNames := proper_prim.mpr (List.mem_cons_self ..)
  cases t with
  | union ts =>
    obtain ⟨hlen, hts⟩ := proper_union.mp h
    refine proper_union.mpr ⟨?_, fun u hu => ?_⟩
    · rw [List.length_append]
      omega
    · rcases List.mem_append.mp hu with hu | hu
      · exact (hts u hu).mono hsub
      · exact List.mem_singleton.mp hu ▸ hnull
  | _ =>
    refine proper_union.mpr ⟨by simp, fun u hu => ?_⟩
    rcases List.mem_cons.mp hu with rfl | hu
    · exact h.mono hsub
    · exact List.mem_singleton.mp hu ▸ hnull

/-- The absent value is one more alternative of a union, and the second one of another type. -/
theorem orNull_cases (t : TypeExpr) :
    (∃ ts, t = .union ts ∧ t.orNull = .union (ts ++ [null])) ∨
      t.orNull = .union ([t] ++ [null]) := by
  cases t with
  | union ts => exact Or.inl ⟨ts, rfl, rfl⟩
  | _ => exact Or.inr rfl

theorem WholeNames.orNull {t : TypeExpr} (h : t.WholeNames) : t.orNull.WholeNames := by
  have hnull : ∀ u ∈ [null], u.WholeNames := List.forall_mem_singleton.mpr (wholeNames_prim _)
  rcases orNull_cases t with ⟨ts, rfl, hts⟩ | hts <;> rw [hts]
  · exact wholeNames_union.mpr (List.forall_mem_append.mpr ⟨wholeNames_union.mp h, hnull⟩)
  · exact wholeNames_union.mpr
      (List.forall_mem_append.mpr ⟨List.forall_mem_singleton.mpr h, hnull⟩)

/-- Payloads are the same when the types of the results are: no payload is a union of one type. -/
theorem eq_of_orNull_eq {names : List String} {t u : TypeExpr} (ht : t.Proper names)
    (hu : u.Proper names) (h : t.orNull = u.orNull) : t = u := by
  have hlone : ∀ (ts : List TypeExpr) (u : TypeExpr), 2 ≤ ts.length →
      ts ++ [null] ≠ [u] ++ [null] := by
    intro ts u hlen heq
    rw [List.append_cancel_right heq] at hlen
    exact absurd hlen (by simp)
  rcases orNull_cases t with ⟨ts, rfl, hts⟩ | hts <;>
    rcases orNull_cases u with ⟨us, rfl, hus⟩ | hus <;> rw [hts, hus] at h
  · exact congrArg _ (List.append_cancel_right (TypeExpr.union.inj h))
  · exact absurd (TypeExpr.union.inj h) (hlone _ _ (proper_union.mp ht).1)
  · exact absurd (TypeExpr.union.inj h).symm (hlone _ _ (proper_union.mp hu).1)
  · exact List.singleton_inj.mp (List.append_cancel_right (TypeExpr.union.inj h))

/-- Payloads are the same when the types of the results are written alike. -/
theorem eq_of_text_orNull_eq {t u : TypeExpr} (ht : t.Proper schemaNames)
    (hu : u.Proper schemaNames) (htnames : t.WholeNames) (hunames : u.WholeNames)
    (h : t.orNull.text = u.orNull.text) : t = u :=
  eq_of_orNull_eq ht hu
    (eq_of_text_eq ⟨ht.orNull, htnames.orNull⟩ ⟨hu.orNull, hunames.orNull⟩ h)

end TypeExpr

end ServerActions.TypeScript
