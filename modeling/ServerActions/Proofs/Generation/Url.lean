import Mathlib.Data.List.TakeWhile
import Mathlib.Data.List.Zip
import ServerActions.Generation.Operation
import ServerActions.Proofs.Entries
import ServerActions.Proofs.TypeScript.Identifier
import ServerActions.Proofs.TypeScript.Template

/-!
# The URL of a call

The URL of a call stands in a template literal.  Where the settings give its root, that literal is
read to its end, the only interpolations in it are names under which path parameters are declared,
and when each of them is replaced by the parameter's placeholder, the text is read as the root
without the slashes at its end and the path.

A placeholder is looked for in the escaped path, and its name is the one that is written there.  So
it is put back into the text as it is written, before what a backslash makes literal is read.

## Main definitions

* `parameterOf?` — the path parameter that is declared under a name.
* `ReadsAsRoot` — the URL of a call is read as a root and a path.

## Main results

* `url_readsAsRoot` — the URL of a call is read as the root that the settings give, and the path.
* `not_readsAsRoot_of_empty` — a root that is given but is empty is taken from the environment.
-/

namespace ServerActions.Generation

open ServerActions.Action (Parameter Payload Call pathBindings placedIn bindingOf)
open TypeScript

/-! ### The root -/

/-- A text is what is left of it without the slashes at its end, and these slashes. -/
theorem exists_withoutFinalSlashes (cs : List Char) :
    ∃ k, cs = withoutFinalSlashes cs ++ List.replicate k '/' := by
  have hslashes : cs.reverse.takeWhile (· == '/')
      = List.replicate (cs.reverse.takeWhile (· == '/')).length '/' := by
    refine List.eq_replicate_of_mem fun c hc => ?_
    simpa using List.mem_takeWhile_imp hc
  refine ⟨(cs.reverse.takeWhile (· == '/')).length, ?_⟩
  calc cs
      = (cs.reverse.takeWhile (· == '/') ++ cs.reverse.dropWhile (· == '/')).reverse := by
        rw [List.takeWhile_append_dropWhile, List.reverse_reverse]
    _ = withoutFinalSlashes cs ++ (cs.reverse.takeWhile (· == '/')).reverse := by
        rw [List.reverse_append, withoutFinalSlashes]
    _ = withoutFinalSlashes cs
          ++ List.replicate (cs.reverse.takeWhile (· == '/')).length '/' := by
        conv_lhs => rw [hslashes, List.reverse_replicate]

/-- What is left does not end with a slash. -/
theorem getLast?_withoutFinalSlashes (cs : List Char) :
    (withoutFinalSlashes cs).getLast? ≠ some '/' := by
  rw [withoutFinalSlashes, List.getLast?_reverse]
  intro h
  have hhead := List.head?_dropWhile_not (· == '/') cs.reverse
  rw [h] at hhead
  cases hhead

/-- The root that is given, as it stands in the template. -/
theorem root_of_baseUrl {s : DocumentSettings} {base : String} (h : s.baseUrl = some base)
    (hne : base ≠ "") :
    (root s).toList = escapeTemplate (withoutFinalSlashes base.toList) := by
  have hempty : base.isEmpty = false := by simpa using hne
  simp only [root, h, hempty, Bool.false_eq_true, if_false, String.toList_ofList]

/-! ### The bindings -/

/-- The path parameter that is declared under a name. -/
def parameterOf? (ps : List Parameter) (binding : List Char) : Option (List Char) :=
  (((pathBindings ps).zip (ps.map Parameter.name)).lookup (String.ofList binding)).map
    String.toList

/-- The path parameters are as many as the names under which they are declared. -/
theorem length_pathBindings (ps : List Parameter) :
    (pathBindings ps).length = (ps.map Parameter.name).length :=
  length_bindingsAfter [] _

/-- The name under which a parameter is declared is that of the parameter. -/
theorem parameterOf?_of_bindingOf {ps : List Parameter} {name binding : String}
    (h : bindingOf ps name = some binding) :
    binding ∈ pathBindings ps ∧ parameterOf? ps binding.toList = some name.toList := by
  have hzip : (name, binding) ∈ (ps.map Parameter.name).zip (pathBindings ps) :=
    List.mem_reverse.mp (mem_of_lookup h)
  have hswap : (binding, name) ∈ (pathBindings ps).zip (ps.map Parameter.name) := by
    rw [← List.zip_swap]
    exact List.mem_map.mpr ⟨_, hzip, rfl⟩
  have hnodup : (((pathBindings ps).zip (ps.map Parameter.name)).map Prod.fst).Nodup := by
    rw [List.map_fst_zip (length_pathBindings ps).le]
    exact nodup_bindings _
  refine ⟨(List.of_mem_zip hswap).1, ?_⟩
  rw [parameterOf?, String.ofList_toList, lookup_of_mem hnodup hswap, Option.map_some]

/-- A name that is declared has no closing brace in it. -/
theorem not_mem_of_mem_pathBindings {ps : List Parameter} {b : String}
    (h : b ∈ pathBindings ps) : '\x7d' ∉ b.toList := by
  obtain ⟨name, -, k, rfl⟩ := exists_of_mem_bindings h
  rw [toList_underscored, bindingName, String.toList_ofList]
  intro hmem
  rcases List.mem_append.mp hmem with hmem | hmem
  · cases List.eq_of_mem_replicate hmem
  · rcases isNameChar_of_mem_bindingChars _ _ hmem with hchar | ⟨hline, -⟩
    · cases hchar
    · cases hline

/-- What is interpolated for a name has no closing brace in it, and is the parameter of that
name. -/
theorem parameterOf?_of_binding {ps : List Parameter} {name b : List Char}
    (h : (bindingOf ps (String.ofList name)).map String.toList = some b) :
    '\x7d' ∉ b ∧ parameterOf? ps b = some name := by
  obtain ⟨binding, hbinding, rfl⟩ := Option.map_eq_some_iff.mp h
  obtain ⟨hmem, hback⟩ := parameterOf?_of_bindingOf hbinding
  rw [String.toList_ofList] at hback
  exact ⟨not_mem_of_mem_pathBindings hmem, hback⟩

/-! ### Reading the URL -/

/-- The URL of a call is the root, then the path with its interpolations. -/
theorem toList_url (params : List Parameter) (path method root : String)
    (payload : Option Payload) :
    (Call.build params path method root payload).url.toList = root.toList ++ interpolated
      (fun name => (bindingOf (placedIn .path params) (String.ofList name)).map String.toList)
      (escapeTemplate path.toList) := by
  rw [Call.build, Action.urlTemplate, String.toList_append, String.toList_ofList]

/-- The URL of a call is read to its end, has no other interpolations than names under which path
parameters are declared, and with their placeholders put back is read as what is left of `base`
without the slashes at its end, followed by the path. -/
def ReadsAsRoot (params : List Parameter) (path base : String) (call : Call) : Prop :=
  ∃ parts kept k, parts? call.url.toList = some parts ∧
    (∀ b, .interpolation b ∈ parts → String.ofList b ∈ pathBindings (placedIn .path params)) ∧
    base.toList = kept ++ List.replicate k '/' ∧ kept.getLast? ≠ some '/' ∧
    literal? (parts.flatMap (TemplatePart.restored (parameterOf? (placedIn .path params))))
      = some (kept ++ path.toList)

/-- **The URL of a call is read as the root that the settings give, and the path**, whatever the
names of the parameters are.  An empty root counts as not given. -/
theorem url_readsAsRoot (s : DocumentSettings) (base : String) (hbase : s.baseUrl = some base)
    (hne : base ≠ "") (params : List Parameter) (path method : String)
    (hpath : path.toList.head? = some '/') (payload : Option Payload) :
    ReadsAsRoot params path base (Call.build params path method (root s) payload) := by
  obtain ⟨k, hk⟩ := exists_withoutFinalSlashes base.toList
  -- The slash in front of the path keeps a dollar sign of the root apart from a brace of the path.
  have hbrace : path.toList.head? ≠ some '\x7b' := by
    rw [hpath]
    decide
  have happend := escapeTemplate_append (withoutFinalSlashes base.toList) hbrace
  have hescaped := happend ▸ escaped_escapeTemplate (withoutFinalSlashes base.toList ++ path.toList)
  obtain ⟨parts, hparts, hinner, hrestored⟩ := parts?_interpolated
    (fun name b h => parameterOf?_of_binding h) hescaped
  refine ⟨parts, withoutFinalSlashes base.toList, k, ?_, fun b hb => ?_, hk,
    getLast?_withoutFinalSlashes _, ?_⟩
  · rw [toList_url, root_of_baseUrl hbase hne, hparts]
  · obtain ⟨name, hb⟩ := hinner b hb
    obtain ⟨binding, hbinding, rfl⟩ := Option.map_eq_some_iff.mp hb
    rw [String.ofList_toList]
    exact (parameterOf?_of_bindingOf hbinding).1
  · rw [hrestored, ← happend, literal?_escapeTemplate]

/-- The URL under a root with slashes and marks of a template in it, of a path with a placeholder
whose name holds a backslash and another after a dollar sign, is read as that root and that path. -/
theorem url_readsAsRoot_marked :
    let s := { DocumentSettings.ofSource "api.yaml" "out" with baseUrl := some "https://x/\x60y//" }
    let params : List Parameter :=
      [⟨"a\\\x60b", .path, true, .string, none⟩, ⟨"id", .path, true, .string, none⟩,
        ⟨"id", .query, true, .string, none⟩]
    let path := "/\x60/$\x7bid\x7d/\x7ba\\\x60b\x7d/\x7ba\\\\\\\x60b\x7d\\"
    s.baseUrl = some "https://x/\x60y//" ∧ path.toList.head? = some '/' ∧
      ReadsAsRoot params path "https://x/\x60y//" (Call.build params path "get" (root s) none) :=
  ⟨rfl, by decide, url_readsAsRoot _ _ rfl (by decide) _ _ _ (by decide) _⟩

/-- A root that is given but empty is read from the environment, which no path parameter is. -/
theorem not_readsAsRoot_of_empty :
    ¬ ∀ (s : DocumentSettings) (base : String), s.baseUrl = some base →
      ∀ (params : List Parameter) (path method : String), path.toList.head? = some '/' →
        ∀ payload : Option Payload,
          ReadsAsRoot params path base (Call.build params path method (root s) payload) := by
  intro h
  obtain ⟨parts, -, -, hparts, hinner, -⟩ :=
    h { DocumentSettings.ofSource "api.yaml" "out" with baseUrl := some "" } "" rfl
      [] "/x" "get" (by decide) none
  have hread : parts? "$\x7bprocess.env.API_URL\x7d/x".toList
      = some [.interpolation "process.env.API_URL".toList, .plain '/', .plain 'x'] := by decide
  cases hparts.symm.trans hread
  exact List.not_mem_nil (hinner _ (List.mem_cons_self ..))

end ServerActions.Generation
