import ServerActions.Number.Binary64
import ServerActions.Value.Moment

/-!
# Values

The values that a description or a configuration file is made of: scalars, lists, sets, and
mappings whose keys are scalars in the order in which they were first given.

## Main definitions

* `Key`, `Key.same` — the scalars that can be keys; numbers and truth values are the same key when
  they are equal as numbers, and points in time when they are the same instant.
* `Value`, `Fields` — a value, and the entries of a mapping.
* `Fields.find?`, `Fields.get?` — the value under a key, and under a name.
* `Fields.insert` — a mapping with one more entry: a later equal key replaces the value and keeps
  the place and the spelling of the first.
-/

namespace ServerActions

open Number (Binary64)

/-- A scalar as the key of a mapping. -/
inductive Key
  | null
  | bool (b : Bool)
  | int (n : Int)
  | float (x : Binary64)
  | moment (m : Moment)
  | str (s : String)
  | octets (bs : List UInt8)
  deriving DecidableEq, Repr, Inhabited

/-- A value. -/
inductive Value
  | null
  | bool (b : Bool)
  | int (n : Int)
  | float (x : Binary64)
  | moment (m : Moment)
  | str (s : String)
  | octets (bs : List UInt8)
  | list (items : List Value)
  /-- An entry of a mapping that is given as the list of its entries. -/
  | pair (key value : Value)
  | set (members : List Key)
  | map (fields : List (Key × Value))
  /-- A list or a mapping around this place once more: the innermost one for zero, and one further
  out for each level above. -/
  | again (level : Nat)
  deriving Repr, Inhabited

/-- The entries of a mapping, in order. -/
abbrev Fields := List (Key × Value)

/-! ### Keys -/

/-- The integer that a key equals as a number, if there is one. -/
def Key.toInt? : Key → Option Int
  | .bool b => some (if b then 1 else 0)
  | .int n => some n
  | .float x => x.toInt?
  | _ => none

/-- The instant of a key that is one. -/
def Key.instant? : Key → Option Int
  | .moment m => m.instant?
  | _ => none

/-- Whether two keys are the same entry of a mapping.  Nothing equals a number that is none. -/
def Key.same (a b : Key) : Bool :=
  match a.toInt?, b.toInt? with
  | some m, some n => m = n
  | none, none =>
    match a.instant?, b.instant? with
    | some s, some t => s = t
    | _, _ => a ≠ .float .nan && a = b
  | _, _ => false

/-- The text of a key that is one. -/
def Key.str? : Key → Option String
  | .str s => some s
  | _ => none

/-- The key as a value. -/
def Key.toValue : Key → Value
  | .null => .null
  | .bool b => .bool b
  | .int n => .int n
  | .float x => .float x
  | .moment m => .moment m
  | .str s => .str s
  | .octets bs => .octets bs

/-- The key that a value is, when it is a scalar. -/
def Value.key? : Value → Option Key
  | .null => some .null
  | .bool b => some (.bool b)
  | .int n => some (.int n)
  | .float x => some (.float x)
  | .moment m => some (.moment m)
  | .str s => some (.str s)
  | .octets bs => some (.octets bs)
  | _ => none

/-- Whether there is no value. -/
def Value.isNull : Value → Bool
  | .null => true
  | _ => false

/-- Whether a value counts as true where any value may stand: it is neither absent nor empty nor
zero. -/
def Value.isSubstantial : Value → Bool
  | .null => false
  | .bool b => b
  | .int n => n ≠ 0
  | .float x => x.toInt? ≠ some 0
  | .moment _ => true
  | .str s => !s.isEmpty
  | .octets bs => !bs.isEmpty
  | .list items => !items.isEmpty
  | .pair .. => true
  | .set members => !members.isEmpty
  | .map fields => !fields.isEmpty
  | .again _ => true

/-- Whether a value is a mapping. -/
def Value.isMapping : Value → Bool
  | .map _ => true
  | _ => false

@[simp] theorem Key.key?_toValue (k : Key) : k.toValue.key? = some k := by
  cases k <;> rfl

/-- A text is the same key as itself. -/
@[simp] theorem Key.same_str (s t : String) : (Key.str s).same (.str t) = decide (s = t) := by
  simp [Key.same, Key.toInt?, Key.instant?]

/-! ### Mappings -/

/-- The value under a key. -/
def Fields.find? (fs : Fields) (k : Key) : Option Value :=
  (List.find? (fun f => f.1.same k) fs).map Prod.snd

/-- The value under a name. -/
def Fields.get? (fs : Fields) (name : String) : Option Value :=
  match fs with
  | [] => none
  | (k, v) :: rest => if k = .str name then some v else Fields.get? rest name

/-- Whether a name is a key. -/
def Fields.has (fs : Fields) (name : String) : Bool :=
  (fs.get? name).isSome

/-- The mapping with `v` under `k`: in the place of the first equal key, or at the end. -/
def Fields.insert (fs : Fields) (k : Key) (v : Value) : Fields :=
  match fs with
  | [] => [(k, v)]
  | (k', v') :: rest => if k'.same k then (k', v) :: rest else (k', v') :: Fields.insert rest k v

/-- The mapping built by inserting the entries one after the other. -/
def Fields.ofList (entries : List (Key × Value)) : Fields :=
  entries.foldl (fun fs e => fs.insert e.1 e.2) []

@[simp] theorem Fields.get?_nil (name : String) : Fields.get? [] name = none := rfl

@[simp] theorem Fields.get?_cons (k : Key) (v : Value) (fs : Fields) (name : String) :
    Fields.get? ((k, v) :: fs) name = if k = .str name then some v else Fields.get? fs name := rfl

end ServerActions
