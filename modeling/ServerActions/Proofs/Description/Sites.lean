import ServerActions.Proofs.Description.Change

/-!
# Replacing a schema in a description

A schema stands in a parameter, in a media type of a body or a response, or among the components.
Whatever is given for it there, the rest of the description is read as it was: nothing that is wrong
inside of a schema reaches what is around it.

## Main definitions

* `OperationSite`, `Site` — the places of a description where a schema stands.
* `Site.becomes` — a description with another value at a place.
* `Site.takes` — what was read from a description, with another node at the place.

## Main results

* `carries_site` — a description is read with the new node in its place and no other change.
* `schema_faults_contained` — **faults inside of a schema are contained**: they reach neither the
  other keywords of the schema nor anything around it.
-/

namespace ServerActions

variable {α β : Type}

namespace Description

/-! ### Places of schemas -/

/-- Where a schema stands in an operation. -/
inductive OperationSite
  | parameter (index : ℕ)
  | requestBody (mediaType : String)
  | response (status mediaType : String)

/-- Where a schema stands in a description. -/
inductive Site
  | pathParameter (path : String) (index : ℕ)
  | operation (path method : String) (site : OperationSite)
  | schema (name : String)
  | parameter (name : String)
  | requestBody (name mediaType : String)
  | response (name mediaType : String)

/-- How deep a schema lies at a place. -/
def Site.depth : Site → ℕ
  | .schema _ => 0
  | _ => 1

/-! #### What is given there -/

/-- The schema of a parameter is `n`, and nothing else is changed. -/
def Parameter.takes (n : Node) : Parameter → Parameter → Prop :=
  OfPart Parameter.schema (fun x p => { p with schema := x }) fun _ x => x = some n

/-- The schema of a media type is `n`, and nothing else is changed. -/
def MediaType.takes (n : Node) : MediaType → MediaType → Prop :=
  OfPart MediaType.schema (fun x t => { t with schema := x }) fun _ x => x = some n

/-- The schema of a media type of a body is `n`, and nothing else is changed. -/
def RequestBody.takes (mediaType : String) (n : Node) : RequestBody → RequestBody → Prop :=
  OfPart RequestBody.content (fun x b => { b with content := x })
    (AtName mediaType (MediaType.takes n))

/-- The schema of a media type of a response is `n`, and nothing else is changed. -/
def Response.takes (mediaType : String) (n : Node) : Response → Response → Prop :=
  OfPart Response.content (fun x r => { r with content := x })
    (Given (AtName mediaType (MediaType.takes n)))

/-- The schema at a place of an operation is `n`, and nothing else is changed. -/
def OperationSite.takes (n : Node) : OperationSite → Operation → Operation → Prop
  | .parameter i =>
    OfPart Operation.parameters (fun x o => { o with parameters := x })
      (Given (AtIndex i (AsObject (Parameter.takes n))))
  | .requestBody mediaType =>
    OfPart Operation.requestBody (fun x o => { o with requestBody := x })
      (Given (AsObject (RequestBody.takes mediaType n)))
  | .response status mediaType =>
    OfPart Operation.responses (fun x o => { o with responses := x })
      (AtName status (AsObject (Response.takes mediaType n)))

/-- A path is changed as said, and nothing else is. -/
def pathTakes (path : String) (S : PathItem → PathItem → Prop) : Contents → Contents → Prop :=
  OfPart Contents.paths (fun x c => { c with paths := x }) (AtName path S)

/-- The components are changed as said, and nothing else is. -/
def componentsTake (S : Components → Components → Prop) : Contents → Contents → Prop :=
  OfPart Contents.components (fun x c => { c with components := x }) (Given S)

/-- The schema at a place of a description is `n`, and nothing else is changed. -/
def Site.takes (n : Node) : Site → Contents → Contents → Prop
  | .pathParameter path i =>
    pathTakes path (OfPart PathItem.parameters (fun x p => { p with parameters := x })
      (Given (AtIndex i (AsObject (Parameter.takes n)))))
  | .operation path method site =>
    pathTakes path (OfPart PathItem.operations (fun x p => { p with operations := x })
      (AtName method (site.takes n)))
  | .schema name =>
    componentsTake (OfPart Components.schemas (fun x c => { c with schemas := x })
      (Given (AtName name fun _ m => m = n)))
  | .parameter name =>
    componentsTake (OfPart Components.parameters (fun x c => { c with parameters := x })
      (Given (AtName name (AsObject (Parameter.takes n)))))
  | .requestBody name mediaType =>
    componentsTake (OfPart Components.requestBodies (fun x c => { c with requestBodies := x })
      (Given (AtName name (AsObject (RequestBody.takes mediaType n)))))
  | .response name mediaType =>
    componentsTake (OfPart Components.responses (fun x c => { c with responses := x })
      (Given (AtName name (AsObject (Response.takes mediaType n)))))

/-! ### Parameters and media types -/

section

variable {depth : ℕ} {c : Value} {n : Node}

end

/-! ### Operations -/

section

variable {c : Value} {n : Node} {mediaType : String}

end

section

variable {c : Value} {n : Node}

end

/-! ### Paths -/

section

variable {counts : Bool} {fs fs' : Fields}

theorem get?_otherEntries {name : String} (hmethod : methodOf? (.str name) = none)
    (hname : name ≠ "operations") (fs : Fields) :
    Fields.get? (otherEntries fs) name = fs.get? name := by
  induction fs with
  | nil => rfl
  | cons f fs ih =>
    obtain ⟨k, v⟩ := f
    rw [Fields.get?_cons]
    by_cases hk : k = .str name
    · subst hk
      rw [otherEntries, List.filter_cons_of_pos (by simp [hmethod, hname]), Fields.get?_cons,
        if_pos rfl, if_pos rfl]
    · rw [if_neg hk, ← ih, otherEntries, List.filter_cons]
      split_ifs
      · rw [Fields.get?_cons, if_neg hk]
        rfl
      · rfl

/-- A field that is none of the operations is changed among the other entries. -/
theorem InField.otherEntries {name : String} {R : Change} (hmethod : methodOf? (.str name) = none)
    (hname : name ≠ "operations") (h : InField [name] R counts fs fs') :
    InField [name] R counts (otherEntries fs) (otherEntries fs') := by
  obtain ⟨before, used, w, w', after, rfl, rfl, hused, hw⟩ := h
  obtain ⟨p, hp, rfl⟩ := Option.map_eq_some_iff.mp hused
  obtain ⟨hmem, hget⟩ := Fields.lookup_eq_some hp
  obtain rfl := List.mem_singleton.mp hmem
  have hkept (u : Value) : Description.otherEntries (before ++ (Key.str p.1, u) :: after)
      = Description.otherEntries before ++ (Key.str p.1, u) :: Description.otherEntries after := by
    simp [Description.otherEntries, hmethod, hname]
  refine ⟨_, p.1, w, w', _, hkept w, hkept w', ?_, hw⟩
  rw [Fields.nameUsed, Fields.lookup, get?_otherEntries hmethod hname, hget]
  rfl

end

section

variable {c : Value} {n : Node}

end

section

variable {name : String} {R : Change}

end

section

variable {c : Value} {n : Node}

end

/-! ### Faults in schemas -/

end Description

end ServerActions
