import ServerActions.Action.Source
import ServerActions.Proofs.Output.Directory
import ServerActions.Proofs.Text.Surrogate

/-!
# Encoding modules

A text is encoded when its file is open already, so that it matters to the file whether it can be.
A module can be where no surrogate is in what it is made of.

## Main definitions

* `Unit.texts` — the texts that the module of a unit is made of.
* `octetsInDirectory` — modules put into a directory when they can all be encoded.

## Main results

* `isPlain_source` — **a module is plain if what it is made of is**.
* `emitAll_of_encodes` — modules that can be encoded are put with their octets.
-/

namespace ServerActions

namespace Action

open Text (IsPlain isPlain_append isPlain_intercalate)

/-! ### Modules of units -/

variable {u : Unit}

theorem isPlain_indented {text : String} (h : IsPlain text.toList) :
    IsPlain (indented text).toList := by
  have hwhole : ∀ l ∈ Text.lines text.toList, IsPlain l.whole := fun l hl c hc =>
    h c <| by
      rw [← Text.flatten_lines text.toList]
      exact List.mem_flatten_of_mem (List.mem_map_of_mem hl) hc
  rw [indented, String.toList_ofList]
  intro c hc
  obtain ⟨row, hrow, hc⟩ := List.mem_flatten.mp hc
  obtain ⟨l, hl, rfl⟩ := List.mem_map.mp hrow
  split_ifs at hc
  · exact hwhole l hl c hc
  · rcases List.mem_append.mp hc with hc | hc
    · exact (by decide : IsPlain [' ', ' ']) c hc
    · exact hwhole l hl c hc

/-- The texts that the module of a unit is made of, beside those that all modules share. -/
def Unit.texts (u : Unit) : List String :=
  [u.name, sentMethod u.method, u.call.signature, u.call.url, u.call.options, u.returnType.text]
    ++ u.call.queryHandling.toList ++ (TypeScript.docComment? u.docs).toList

/-- **A module is plain if what it is made of is.** -/
theorem isPlain_source (h : ∀ t ∈ u.texts, IsPlain t.toList) : IsPlain u.source.toList := by
  have hfeed : IsPlain "\n".toList := by decide
  obtain ⟨⟨⟨hname, hmethod, hsignature, hurl, hoptions, htype, -⟩, hquery⟩, hdocs⟩ :
      ((_ ∧ _ ∧ _ ∧ _ ∧ _ ∧ _ ∧ _) ∧ _) ∧ _ := by
    simpa only [Unit.texts, List.forall_mem_append, List.forall_mem_cons] using h
  have hheader : IsPlain u.header.toList :=
    isPlain_append (isPlain_append (isPlain_append (isPlain_append (isPlain_append (isPlain_append
      (by decide) hname) (by decide)) hsignature) (by decide)) htype) (by decide)
  have hrequest : IsPlain u.request.toList := by
    refine isPlain_intercalate hfeed (List.forall_mem_append.mpr
      ⟨List.forall_mem_append.mpr ⟨?_, hquery⟩, ?_⟩)
    · exact List.forall_mem_singleton.mpr
        (isPlain_append (isPlain_append (by decide) hurl) (by decide))
    · exact List.forall_mem_cons.mpr ⟨hoptions, by decide⟩
  have hbody : IsPlain u.body.toList := by
    have hreport := isPlain_append (isPlain_append
      (by decide : IsPlain "    console.error(\x60API error: ".toList) hmethod)
      (by decide : IsPlain " $\x7burl\x7d $\x7bres.status\x7d\x60);".toList)
    exact isPlain_intercalate hfeed <| List.forall_mem_cons.mpr ⟨by decide,
      List.forall_mem_cons.mpr ⟨isPlain_indented hrequest, List.forall_mem_cons.mpr ⟨by decide,
        List.forall_mem_cons.mpr ⟨by decide, List.forall_mem_cons.mpr ⟨hreport, by decide⟩⟩⟩⟩⟩
  refine isPlain_intercalate hfeed (List.forall_mem_append.mpr
    ⟨List.forall_mem_append.mpr ⟨by decide, hdocs⟩, ?_⟩)
  exact List.forall_mem_cons.mpr ⟨hheader, List.forall_mem_cons.mpr
    ⟨isPlain_indented hbody, by decide⟩⟩

/-- So it can be encoded. -/
theorem encodes_source (h : ∀ t ∈ u.texts, IsPlain t.toList) :
    Text.EncodingFault.inUtf8? u.source.toList = none :=
  Text.inUtf8?_of_isPlain (isPlain_source h)

end Action

/-! ### Modules that can be encoded -/

namespace Output

open Files (Disk)

/-- Modules put into a directory as what their texts are in UTF-8, whether or not they can be
encoded. -/
def octetsInDirectory (disk : Directory → Disk) : Emitter Directory := fun d name source =>
  d.put (disk d) (d.location name) ((disk d).fill (d.location name) (Text.utf8 source))

/-- Modules that can be encoded are put with their octets. -/
theorem emitAll_of_encodes {disk : Directory → Disk} (d : Directory) {ps : List (String × String)}
    (h : ∀ p ∈ ps, Text.EncodingFault.inUtf8? p.2.toList = none) :
    emitAll (inDirectoryOn disk) d ps = emitAll (octetsInDirectory disk) d ps :=
  emitAll_congr fun d p hp => by
    rw [inDirectoryOn, octetsInDirectory, Disk.keep_of_encodes _ _ (h p hp)]

end Output

/-- A result that can be compared is the result. -/
theorem eq_ok_of_toOption {ε α : Type} {x : Except ε α} {a : α} (h : x.toOption = some a) :
    x = .ok a := by
  cases x with
  | error e => cases h
  | ok b => exact congrArg Except.ok (Option.some.inj h)

end ServerActions
