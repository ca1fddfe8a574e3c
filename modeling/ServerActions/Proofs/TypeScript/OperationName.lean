import Mathlib.Data.List.Infix
import ServerActions.Description.Document
import ServerActions.Proofs.TypeScript.Identifier

/-!
# Names made from methods and paths

An operation without a name of its own is called after its method and its path.  The method is a
word of small letters, and what follows it is no small letter: a path begins with a slash, which
becomes an underscore, and that stays or makes way for a capital.  So the method is read back from
the name as the small letters with which it begins, and two names are equal only if the methods are.

Camel case leaves no underscore before a small letter, and without such an underscore there is
nothing to fold: a name is in camel case once and for all.

## Main definitions

* `Unnamed` — a method and a path from the root that a name is made for.

## Main results

* `isLower_of_infix_camelFold` — in camel case no underscore stands before a small letter.
* `camelFold_camelFold` — what is in camel case stays as it is.
* `Unnamed.takeWhile_name` — the method is read back from the name.
* `Unnamed.name_determines` — **names made from methods and paths determine the method.**
-/

namespace ServerActions.TypeScript

variable {cs : List Char} {d : Char}

/-! ### Camel case -/

/-- A text in camel case begins as the text does, or with no small letter. -/
theorem exists_camelFold_cons (c : Char) (cs : List Char) :
    ∃ e rest, camelFold (c :: cs) = e :: rest ∧ (e = c ∨ e.isLower = false) := by
  by_cases hc : c = '_'
  · obtain ⟨e, rest, heq, he⟩ := camelFold_cons_underscore cs
    exact ⟨e, rest, by rw [hc, heq], Or.inr he⟩
  · exact ⟨c, camelFold cs, camelFold_cons_of_ne hc cs, Or.inl rfl⟩

/-- **In camel case no underscore stands before a small letter.** -/
theorem isLower_of_infix_camelFold (cs : List Char) :
    ∀ d, ['_', d] <:+: camelFold cs → d.isLower = false := by
  fun_induction camelFold cs with
  | case1 =>
    intro d h
    cases List.eq_nil_of_infix_nil h
  | case2 c =>
    intro d h
    have hlength := h.length_le
    simp at hlength
  | case3 c d cs hfold ih =>
    intro e h
    rcases List.infix_cons_iff.mp h with h | h
    · -- The capital of a small letter is no underscore.
      have hcapital : '_' = d.toUpper := (List.cons_prefix_cons.mp h).1
      have hupper := isUpper_toUpper hfold.2
      rw [← hcapital] at hupper
      exact absurd hupper (by decide)
    · exact ih e h
  | case4 c d cs hfold ih =>
    intro e h
    rcases List.infix_cons_iff.mp h with h | h
    · -- An underscore that stays is not before a small letter, nor is what follows folded to one.
      obtain ⟨rfl, hrest⟩ := List.cons_prefix_cons.mp h
      obtain ⟨x, rest, heq, hx⟩ := exists_camelFold_cons d cs
      rw [heq] at hrest
      obtain rfl : e = x := (List.cons_prefix_cons.mp hrest).1
      rcases hx with rfl | hx
      · exact Bool.eq_false_iff.mpr fun hlower => hfold ⟨rfl, hlower⟩
      · exact hx
    · exact ih e h

/-- Without an underscore before a small letter there is nothing to fold. -/
theorem camelFold_eq_self (h : ∀ d, ['_', d] <:+: cs → d.isLower = false) : camelFold cs = cs := by
  fun_induction camelFold cs with
  | case1 => rfl
  | case2 c => rfl
  | case3 c d cs hfold ih =>
    obtain ⟨rfl, hlower⟩ := hfold
    have hinfix : ['_', d] <:+: '_' :: d :: cs := (List.prefix_append ['_', d] cs).isInfix
    rw [h d hinfix] at hlower
    cases hlower
  | case4 c d cs hfold ih =>
    rw [ih fun e he => h e (List.infix_cons he)]

/-- **What is in camel case stays as it is.** -/
theorem camelFold_camelFold (cs : List Char) : camelFold (camelFold cs) = camelFold cs :=
  camelFold_eq_self (isLower_of_infix_camelFold cs)

/-! ### Methods and paths -/

/-- The methods are words of small letters. -/
theorem isLower_of_mem_methods {method : String} (h : method ∈ Description.methods) :
    method.toList ≠ [] ∧ ∀ c ∈ method.toList, c.isLower = true := by
  have hall : ∀ m ∈ Description.methods, m.toList ≠ [] ∧ m.toList.all Char.isLower = true := by
    decide
  exact (hall method h).imp_right List.all_eq_true.mp

/-- Without a name declared, the name is made from the method and the path. -/
theorem toList_operationName_of_empty {method path : String} {declared : Option String}
    (h : declared.getD "" = "") : (operationName method path declared).toList
      = camelFold (method.toList ++ joinWords path.toList) := by
  have hderived : operationName method path declared = operationName.derived method path := by
    unfold operationName
    split
    · rw [if_pos (by simpa using h)]
    · rfl
  rw [hderived, operationName.derived, operationName.folded, String.toList_ofList]

/-- A method and a path that begins with a slash, for which no name or the empty one is declared. -/
structure Unnamed where
  method : String
  path : String
  declared : Option String
  isMethod : method ∈ Description.methods
  isRooted : path.toList.head? = some '/'
  isUndeclared : declared.getD "" = ""

namespace Unnamed

variable (o o' : Unnamed)

/-- The name of the operation. -/
def name : String :=
  operationName o.method o.path o.declared

/-- What the path becomes in the name. -/
def words : List Char :=
  camelFold (joinWords o.path.toList)

theorem isLower_method : o.method.toList ≠ [] ∧ ∀ c ∈ o.method.toList, c.isLower = true :=
  isLower_of_mem_methods o.isMethod

theorem toList_name :
    o.name.toList = camelFold (o.method.toList ++ joinWords o.path.toList) :=
  toList_operationName_of_empty o.isUndeclared

/-- No small letter of a method is folded. -/
theorem toList_name_eq : o.name.toList = o.method.toList ++ o.words := by
  rw [toList_name, words, camelFold_append]
  rintro c hc rfl
  exact absurd (o.isLower_method.2 _ hc) (by decide)

/-- **The method is read back from the name**, as the small letters with which it begins. -/
theorem takeWhile_name : o.name.toList.takeWhile Char.isLower = o.method.toList := by
  obtain ⟨-, hletters⟩ := o.isLower_method
  obtain ⟨c, rest, heq, hc, -⟩ := exists_camelFold_eq hletters o.isRooted
  rw [toList_name, heq, List.takeWhile_append_of_pos hletters,
    List.takeWhile_cons_of_neg (by rw [hc]; exact Bool.false_ne_true), List.append_nil]

/-- **Names made from methods and paths determine the method**: two of them are equal if and only if
the methods are and the paths become the same words.  Every such name can be declared, has no
underscore before a small letter and stays as it is in camel case. -/
theorem name_determines :
    (∀ o o' : Unnamed, o.name = o'.name ↔ o.method = o'.method ∧ o.words = o'.words) ∧
      ∀ o : Unnamed, IsLegal o.name.toList ∧
        (∀ d, ['_', d] <:+: o.name.toList → d.isLower = false) ∧
        camelFold o.name.toList = o.name.toList := by
  refine ⟨fun o o' => ⟨fun h => ?_, fun ⟨hmethod, hwords⟩ => ?_⟩, fun o => ?_⟩
  · have hmethod : o.method.toList = o'.method.toList := by
      rw [← o.takeWhile_name, ← o'.takeWhile_name, h]
    have hname : o.method.toList ++ o.words = o'.method.toList ++ o'.words := by
      rw [← toList_name_eq, ← toList_name_eq, h]
    rw [hmethod] at hname
    exact ⟨String.toList_inj.mp hmethod, List.append_cancel_left hname⟩
  · refine String.toList_inj.mp ?_
    rw [toList_name_eq, toList_name_eq, hmethod, hwords]
  · obtain ⟨hne, hletters⟩ := o.isLower_method
    rw [toList_name]
    exact ⟨isLegal_camelFold_words hne hletters o.isRooted, isLower_of_infix_camelFold _,
      camelFold_camelFold _⟩

/-- An operation without an identifier. -/
def reading : Unnamed where
  method := "get"
  path := "/pet-owners/{id}"
  declared := none
  isMethod := by decide
  isRooted := by decide
  isUndeclared := rfl

/-- An operation of the same path with the empty identifier. -/
def removing : Unnamed where
  method := "delete"
  path := "/pet-owners/{id}"
  declared := some ""
  isMethod := by decide
  isRooted := by decide
  isUndeclared := rfl

/-- The paths of the two become the same words, and the methods tell their names apart. -/
theorem name_determines_reading :
    reading.name = "getPetOwnersId_" ∧ reading.words = removing.words ∧
      reading.name ≠ removing.name ∧ IsLegal reading.name.toList ∧ IsLegal removing.name.toList := by
  obtain ⟨hequal, hlegal⟩ := name_determines
  have hmethods : reading.method ≠ removing.method := by decide
  exact ⟨by decide, rfl, fun h => hmethods ((hequal reading removing).mp h).1,
    (hlegal reading).1, (hlegal removing).1⟩

end Unnamed

end ServerActions.TypeScript
