import ServerActions.Proofs.Generation.Names
import ServerActions.Proofs.Generation.Url
import ServerActions.Proofs.TypeScript.Placeholder

/-!
# The placeholders of a path

A path parameter is taken out of its record under a binding, and the URL of the call interpolates
that binding wherever the path has the parameter's placeholder.  The placeholders are looked for in
the escaped path, so this holds of names that escaping leaves as they are: those with neither a
backslash nor a backtick.

## Main definitions

* `Introduces` — the parameters of a function introduce a binding for a property.
* `ReadsAround` — how the URL of a call is read around a part of the path.

## Main results

* `interpolates_iff` — a placeholder is the interpolation of its parameter's binding if and only if
  its name is not changed by escaping.
* `not_interpolates` — it is not for every name.
-/

namespace ServerActions.Generation

open ServerActions.Action (Call Declaration Parameter Payload bindingOf declarations pathBindings
  placedIn signatureText)
open TypeScript

/-! ### Bindings -/

/-- The parameters of a function introduce one binding for a property, and no other. -/
def Introduces (ds : List Declaration) (name binding : String) : Prop :=
  ∃ d ∈ ds, ∃ properties, d.pattern = .taken properties ∧
    ∀ b, (name, b) ∈ properties ↔ b = binding

section

variable {ps : List Parameter} {name : String}

/-- The properties of the path parameters have the names of these, each once. -/
theorem map_fst_properties (ps : List Parameter) :
    ((ps.map Parameter.name).zip (pathBindings ps)).map Prod.fst = ps.map Parameter.name :=
  List.map_fst_zip (length_pathBindings ps).ge

/-- A path parameter has a binding, which is the one that is found for it. -/
theorem exists_binding (hnodup : (ps.map Parameter.name).Nodup)
    (hname : name ∈ ps.map Parameter.name) :
    ∃ binding, bindingOf ps name = some binding ∧
      ∀ b, (name, b) ∈ (ps.map Parameter.name).zip (pathBindings ps) ↔ b = binding := by
  have hkeys : ((ps.map Parameter.name).zip (pathBindings ps)).reverse.map Prod.fst
      = (ps.map Parameter.name).reverse := by
    rw [List.map_reverse, map_fst_properties]
  -- The list is looked up from its end, which makes no difference where the names are distinct.
  have hlookup : ∀ b, (name, b) ∈ (ps.map Parameter.name).zip (pathBindings ps) →
      bindingOf ps name = some b := fun b hb =>
    lookup_of_mem (by rw [hkeys, List.nodup_reverse]; exact hnodup) (List.mem_reverse.mpr hb)
  rw [← map_fst_properties ps] at hname
  obtain ⟨⟨_, binding⟩, hmem, rfl⟩ := List.mem_map.mp hname
  refine ⟨binding, hlookup binding hmem, fun b => ⟨fun hb => ?_, ?_⟩⟩
  · exact Option.some.inj ((hlookup b hb).symm.trans (hlookup binding hmem))
  · rintro rfl
    exact hmem

/-- The binding of a path parameter is introduced by the function's parameters. -/
theorem introduces_declarations {queryParams : List Parameter} {payload : Option Payload}
    {binding : String} (hname : name ∈ ps.map Parameter.name)
    (hbinding : ∀ b, (name, b) ∈ (ps.map Parameter.name).zip (pathBindings ps) ↔ b = binding) :
    Introduces (declarations ps queryParams payload) name binding := by
  have hps : ps.isEmpty = false := by
    cases ps with
    | nil => cases hname
    | cons p ps => rfl
  refine ⟨⟨.taken _, .record (ps.map fun p => ⟨p.name, p.type, false⟩)⟩, ?_, _, rfl, hbinding⟩
  rw [declarations, hps]
  exact List.mem_append_left _ (List.mem_append_left _ (List.mem_singleton_self _))

end

/-! ### Reading the URL -/

/-- The URL of a call is read, after its root, as the text before, the parts in the middle and the
text after, where placeholders stand in the place of interpolations.  Where the root is read to its
end and no brace comes after a dollar sign that ends it, the root is read first. -/
def ReadsAround (ps : List Parameter) (path root url : String) (before : List Char)
    (middle : List TemplatePart) (after : List Char) : Prop :=
  ∃ text xs ys, url = root ++ text ∧ parts? text.toList = some (xs ++ middle ++ ys) ∧
    literal? (xs.flatMap (TemplatePart.restored (parameterOf? ps))) = some before ∧
    literal? (ys.flatMap (TemplatePart.restored (parameterOf? ps))) = some after ∧
    ∀ rs, parts? root.toList = some rs →
      (rs.getLast? = some (.plain '$') → path.toList.head? ≠ some '\x7b') →
        parts? url.toList = some (rs ++ (xs ++ middle ++ ys))

/-- **A placeholder is the interpolation of its parameter's binding if and only if its name has
neither a backslash nor a backtick in it.**  Whatever is interpolated in the place of a placeholder
is the parameter whose name is the placeholder's as it is escaped. -/
theorem interpolates_iff (params : List Parameter) (path method root : String)
    (payload : Option Payload) (hnodup : ((placedIn .path params).map Parameter.name).Nodup)
    (name : String) (hname : name ∈ (placedIn .path params).map Parameter.name) (hne : name ≠ "")
    (hopen : '\x7b' ∉ name.toList) (hclose : '\x7d' ∉ name.toList) (before after : List Char)
    (hpath : path.toList = before ++ Piece.whole (.placeholder name.toList) ++ after) :
    let ds := declarations (placedIn .path params) (placedIn .query params) payload
    let call := Call.build params path method root payload
    call.signature = signatureText ds ∧
      ∃ binding middle, Introduces ds name binding ∧
        ReadsAround (placedIn .path params) path root call.url before middle after ∧
        literal? (middle.flatMap (TemplatePart.restored (parameterOf? (placedIn .path params))))
          = some (Piece.whole (.placeholder name.toList)) ∧
        (∀ b, .interpolation b ∈ middle →
          parameterOf? (placedIn .path params) b = some (escapeTemplate name.toList)) ∧
        (middle = [.interpolation binding.toList] ↔ '\\' ∉ name.toList ∧ '\x60' ∉ name.toList) := by
  intro ds call
  obtain ⟨binding, hfound, hbinding⟩ := exists_binding hnodup hname
  have hback : parameterOf? (placedIn .path params) binding.toList = some name.toList :=
    (parameterOf?_of_bindingOf hfound).2
  have hne' : name.toList ≠ [] := fun h => hne (String.toList_eq_nil_iff.mp h)
  obtain ⟨xs, middle, ys, hparts, hxs, hmiddle, hys, hsome, hnone⟩ :=
    reads_around (fun _ _ h => parameterOf?_of_binding h) hne' hopen hclose before after
  -- Only what the escaped name is the name of can stand in the middle.
  have hinner : ∀ b, .interpolation b ∈ middle →
      parameterOf? (placedIn .path params) b = some (escapeTemplate name.toList) := by
    intro b hb
    cases hlookup : (bindingOf (placedIn .path params)
        (String.ofList (escapeTemplate name.toList))).map String.toList with
    | some b' =>
      rw [hsome b' hlookup, List.mem_singleton] at hb
      cases hb
      exact (parameterOf?_of_binding hlookup).2
    | none => exact absurd hb (hnone hlookup b)
  refine ⟨Action.signature_eq _ _ _, binding, middle, introduces_declarations hname hbinding,
    ⟨_, xs, ys, rfl, ?_, hxs, hys, fun rs hrs hdollar => ?_⟩, hmiddle, hinner, fun h => ?_,
    fun h => ?_⟩
  · rw [String.toList_ofList, hpath]
    exact hparts
  · rw [toList_url, parts?_append hrs fun hlast hhead =>
        hdollar hlast (head?_interpolated_escapeTemplate hhead),
      hpath, hparts, Option.map_some]
  · -- The parameter of the binding has one name.
    have hsame := hinner binding.toList (h ▸ List.mem_singleton_self _)
    exact (escapeTemplate_eq_self_iff hopen).mp (Option.some.inj (hsame.symm.trans hback))
  · refine hsome _ ?_
    rw [(escapeTemplate_eq_self_iff hopen).mpr h, String.ofList_toList, hfound, Option.map_some]

/-- The parameters of a path, one of them with a backtick in its name. -/
def tickedParameters : List Parameter :=
  [⟨"id", .path, true, .string, none⟩, ⟨"a\x60b", .path, true, .string, none⟩]

/-- After a dollar sign and beside a placeholder that is not found, the placeholder of an ordinary
name is the interpolation of its binding. -/
theorem interpolates_iff_ticked :
    ((placedIn .path tickedParameters).map Parameter.name).Nodup ∧
      "/$\x7bid\x7d/\x7ba\x60b\x7d".toList
        = ['/', '$'] ++ Piece.whole (.placeholder "id".toList) ++ "/\x7ba\x60b\x7d".toList ∧
      ∃ binding, Introduces (declarations (placedIn .path tickedParameters) [] none) "id" binding ∧
        ReadsAround (placedIn .path tickedParameters) "/$\x7bid\x7d/\x7ba\x60b\x7d" "https://x"
          (Call.build tickedParameters "/$\x7bid\x7d/\x7ba\x60b\x7d" "get" "https://x" none).url
          ['/', '$'] [.interpolation binding.toList] "/\x7ba\x60b\x7d".toList := by
  have hnodup : ((placedIn .path tickedParameters).map Parameter.name).Nodup := by decide
  have hpath : "/$\x7bid\x7d/\x7ba\x60b\x7d".toList
      = ['/', '$'] ++ Piece.whole (.placeholder "id".toList) ++ "/\x7ba\x60b\x7d".toList := by
    decide
  obtain ⟨-, binding, middle, hintroduces, hreads, -, -, hiff⟩ :=
    interpolates_iff tickedParameters "/$\x7bid\x7d/\x7ba\x60b\x7d" "get" "https://x" none hnodup
      "id" (by decide) (by decide) (by decide) (by decide) _ _ hpath
  exact ⟨hnodup, hpath, binding, hintroduces, hiff.mpr (by decide) ▸ hreads⟩

/-- Not every placeholder of a path parameter is an interpolation: one with a backtick in its name
is read as it is written in the path. -/
theorem not_interpolates :
    ¬ ∀ (params : List Parameter) (path method root : String) (payload : Option Payload),
      ((placedIn .path params).map Parameter.name).Nodup →
      ∀ name ∈ (placedIn .path params).map Parameter.name, name ≠ "" →
        '\x7b' ∉ name.toList → '\x7d' ∉ name.toList → ∀ before after : List Char,
          path.toList = before ++ Piece.whole (.placeholder name.toList) ++ after →
          ∃ binding, Introduces (declarations (placedIn .path params) (placedIn .query params) payload)
              name binding ∧
            ReadsAround (placedIn .path params) path root
              (Call.build params path method root payload).url before
              [.interpolation binding.toList] after := by
  intro h
  obtain ⟨binding, -, text, xs, ys, hurl, hparts, -⟩ :=
    h tickedParameters "/\x7ba\x60b\x7d" "get" "" none (by decide) "a\x60b" (by decide) (by decide)
      (by decide) (by decide) ['/'] [] (by decide)
  have htext : text.toList = "/\x7ba\\\x60b\x7d".toList := by
    rw [String.empty_append] at hurl
    rw [← hurl]
    decide
  have hread : parts? text.toList = some [.plain '/', .plain '\x7b', .plain 'a', .escaped '\x60',
      .plain 'b', .plain '\x7d'] := by
    rw [htext]
    decide
  have hmem :
      TemplatePart.interpolation binding.toList ∈ xs ++ [.interpolation binding.toList] ++ ys :=
    List.mem_append_left _ (List.mem_append_right _ (List.mem_singleton_self _))
  rw [Option.some.inj (hparts.symm.trans hread)] at hmem
  simp at hmem

end ServerActions.Generation
