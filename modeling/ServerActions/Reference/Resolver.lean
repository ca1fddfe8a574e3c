import ServerActions.Description.Outline
import ServerActions.Notice
import ServerActions.Reference.Pointer

/-!
# Following references

The schema that a reference points to, which is remembered once it was found, and the object at the
end of a chain of references.

## Main definitions

* `Memo`, `Session` — the schemas found so far, and those together with the remarks made.
* `Run` — a computation in a session, which may fail; the session lives on after a failure.
* `target` — the schema that a reference points to.
* `schema` — the same, looked up in the session first and remembered.
* `object` — the object that is given, or that the chain of references from it leads to.
-/

namespace ServerActions.Reference

open Description (Node Reference OrReference referenceKey)

/-- The schemas found so far, in the order in which they were found. -/
abbrev Memo := List (String × Node)

/-- The schemas found and the remarks made so far. -/
structure Session where
  memo : Memo
  notices : List Notice
  deriving Repr

/-- The session in which nothing has happened yet. -/
def Session.fresh : Session := ⟨[], []⟩

/-- A computation in a session. -/
abbrev Run := ExceptT Failure (StateM Session)

variable {α : Type}

/-- A computation that needs no session. -/
def Run.ofExcept (e : Except Failure α) : Run α :=
  fun s => (e, s)

/-- The computation that makes a remark. -/
def Run.note (n : Notice) : Run Unit :=
  fun s => (.ok (), { s with notices := s.notices ++ [n] })

/-! ### Schemas -/

/-- The schema that a reference points to. -/
def target (root : Fields) (ref : String) : Except Failure Node := do
  let v ← resolve root ref
  if !v.isMapping then throw (.reference ref (some .notSchema))
  match Node.read v with
  | .valid n => return n
  | .invalid fs => throw (.reference ref (some (.invalidSchema fs)))

/-- The schema that a reference points to, which is remembered. -/
def schema (root : Fields) (ref : String) : Run Node := fun s =>
  match s.memo.lookup ref with
  | some n => (.ok n, s)
  | none =>
    match target root ref with
    | .ok n => (.ok n, { s with memo := s.memo ++ [(ref, n)] })
    | .error e => (.error e, s)

/-! ### Reference texts -/

mutual
/-- The texts under the key of references, at any depth of a value. -/
def refsIn : Value → List String
  | .map fs => refsInFields fs
  | .list vs => refsInItems vs
  | _ => []
termination_by structural v => v

/-- The texts under the key of references, at any depth of a mapping. -/
def refsInFields : List (Key × Value) → List String
  | [] => []
  | (k, v) :: fs =>
    (if k = .str referenceKey then v.toText.toOption.toList else []) ++ refsIn v ++ refsInFields fs
termination_by structural fs => fs

/-- The texts under the key of references, at any depth of a list. -/
def refsInItems : List Value → List String
  | [] => []
  | v :: vs => refsIn v ++ refsInItems vs
termination_by structural vs => vs
end

/-! ### Objects -/

/-- The object that a reference leads to, after the references seen.  Each step sees one more of the
texts under the key of references, of which `bound` are left. -/
def follow (root : Fields) (m : Model α) : Nat → List String → String → Except Failure α
  | bound, seen, ref =>
    if ref ∈ seen then .error (.reference ref (some (.circular (seen ++ [ref]))))
    else
      match bound with
      | 0 => .error (.reference ref (some (.circular (seen ++ [ref]))))
      | bound + 1 => do
        match (← resolve root ref).fields? with
        | some fs =>
          if fs.has referenceKey then
            match Reference.model.ofFields fs with
            | .valid next => follow root m bound (seen ++ [ref]) next.target
            | .invalid faults => throw (.bare (.faults faults))
          else
            match m.ofFields fs with
            | .valid a => return a
            | .invalid faults => throw (.reference ref (some (.invalidObject m.name faults)))
        | none => throw (.reference ref (some (.notObject m.name)))

/-- The object that is given, or that the chain of references from it leads to.  A chain that does
not come back to itself sees the first reference and at most all those of the document. -/
def object (root : Fields) (m : Model α) : OrReference α → Except Failure α
  | .object a => .ok a
  | .reference r => follow root m ((refsInFields root).length + 1) [] r.target

end ServerActions.Reference
