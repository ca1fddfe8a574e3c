import ServerActions.Checked.Basic
import ServerActions.Place
import ServerActions.Text.Utf8
import ServerActions.Value.Inside

/-!
# Reading the parts of a value

Texts, truth values, lists and mappings read from values, and the fields of a model read from a
mapping.

## Main definitions

* `Value.toText`, `Value.toTruth` — a value as one of a kind.
* `Value.toListOf`, `Value.toMappingOf` — a list or a mapping each of whose members is read.
* `oncePerName` — entries with each name only once.
* `Fields.required`, `Fields.withDefault`, `Fields.optional` — a field of a model.
* `Fields.undeclared` — the entries of a mapping that are no fields of its model.
* `Fields.ifNamed` — what is read from a mapping whose keys can be names.
* `Model` — what is read from the entries of a mapping.
-/

namespace ServerActions

variable {α : Type}

/-! ### Scalars -/

/-- The text that octets denote. -/
def textOfOctets? (bs : List UInt8) : Option String :=
  (Text.Utf8.decode bs).toOption.map fun cs => String.ofList (Text.spellingOf cs)

/-- A text, which may be given by its octets. -/
def Value.toText : Value → Checked String
  | .str s => .valid s
  | .octets bs =>
    match textOfOctets? bs with
    | some s => .valid s
    | none => .fault .unreadableText
  | _ => .fault .notText

/-- The words for true and for false. -/
def truthWord? (s : String) : Option Bool :=
  let word := String.ofList (s.toList.map Char.toLower)
  if word ∈ ["1", "on", "t", "true", "y", "yes"] then some true
  else if word ∈ ["0", "off", "f", "false", "n", "no"] then some false
  else none

/-- The numbers for true and for false. -/
def truthNumber? (n : Int) : Option Bool :=
  if n = 1 then some true else if n = 0 then some false else none

/-- The bound of the integers of sixty-four bits. -/
def wordBound : Int := 0x8000000000000000

/-- A truth value, or a word or a number that stands for one.  A number stands for one only
when it is an integer of sixty-four bits. -/
def Value.toTruth : Value → Checked Bool
  | .bool b => .valid b
  | .str s =>
    if Text.hasSurrogates s.toList then .fault .unreadableText else ofOption (truthWord? s)
  | .octets bs => ofOption ((textOfOctets? bs).bind truthWord?)
  | .int n =>
    if -wordBound ≤ n ∧ n < wordBound then ofOption (truthNumber? n) else .fault .notTruth
  | .float x =>
    match x.toInt? with
    | some n =>
      if -wordBound < n ∧ n < wordBound then ofOption (truthNumber? n) else .fault .notTruth
    | none => .fault .notTruth
  | _ => .fault .notTruth
where
  /-- The truth value, or the complaint that there is neither. -/
  ofOption : Option Bool → Checked Bool
    | some b => .valid b
    | none => .fault .unclearTruth

/-- The place that a text names. -/
def Value.toPlace : Value → Checked Place
  | .str s =>
    if Text.hasSurrogates s.toList then .fault .unreadableText
    else match Place.ofName? s with
      | some p => .valid p
      | none => .fault .notPlace
  | _ => .fault .notPlace

/-- A value that may be absent. -/
def Value.toNullable (read : Value → Checked α) : Value → Checked (Option α)
  | .null => .valid none
  | v => (read v).map some

/-! ### Lists and mappings -/

/-- The members of a list, read one after the other from an index on. -/
def checkItems (read : Value → Checked α) (index : Nat) : List Value → Checked (List α)
  | [] => .valid []
  | v :: vs =>
    (((read v).under (toString index)).map List.cons).apply (checkItems read (index + 1) vs)

/-- A list or a set each of whose members is read. -/
def Value.toListOf (read : Value → Checked α) (v : Value) : Checked (List α) :=
  match v.items? with
  | some vs => checkItems read 0 vs
  | none => .fault .notList

/-- A key as a step of a location. -/
def Key.step : Key → String
  | .bool b => if b then "1" else "0"
  | .moment m => m.detailed
  | .str s => String.ofList (Text.lossy s.toList)
  | k => k.shown

/-- The text that a key is, as a part of a mapping's location. -/
def Key.toText (k : Key) : Checked String :=
  (k.toValue.toText.under "[key]").under k.step

/-- The entries of a mapping with texts as keys, each value read. -/
def checkEntries (read : Value → Checked α) : Fields → Checked (List (String × α))
  | [] => .valid []
  | (k, v) :: fs =>
    let entry := (k.toText.map Prod.mk).apply ((read v).under k.step)
    (entry.map List.cons).apply (checkEntries read fs)

/-- The entries with `a` under `name`: in the place of the first one with that name, or at the
end. -/
def putNamed (name : String) (a : α) : List (String × α) → List (String × α)
  | [] => [(name, a)]
  | e :: es => if e.1 = name then (name, a) :: es else e :: putNamed name a es

/-- The entries without any name twice, as when a name is given both as a text and by its octets:
the last one counts, in the place of the first. -/
def oncePerName (entries : List (String × α)) : List (String × α) :=
  entries.foldl (fun es e => putNamed e.1 e.2 es) []

/-- A mapping with texts as keys, each value read. -/
def Value.toMappingOf (read : Value → Checked α) (v : Value) : Checked (List (String × α)) :=
  match v.fields? with
  | some fs => (checkEntries read fs).map oncePerName
  | none => .fault .notMapping

/-- A mapping with texts as keys and any values. -/
def Value.toNamed : Value → Checked (List (String × Value)) :=
  Value.toMappingOf .valid

/-! ### Fields -/

/-- The value of a field under the first of its names that there is, with that name. -/
def Fields.lookup (fs : Fields) : List String → Option (String × Value)
  | [] => none
  | name :: names =>
    match fs.get? name with
    | some v => some (name, v)
    | none => Fields.lookup fs names

/-- A field that has to be there, under one of its names. -/
def Fields.required (fs : Fields) (name : String) (others : List String)
    (read : Value → Checked α) : Checked α :=
  match fs.lookup (name :: others) with
  | some (used, v) => (read v).under used
  | none => (Checked.fault .missing).under name

/-- A field with a default for when it is not there. -/
def Fields.withDefault (fs : Fields) (name : String) (others : List String) (default : α)
    (read : Value → Checked α) : Checked α :=
  match fs.lookup (name :: others) with
  | some (used, v) => (read v).under used
  | none => .valid default

/-- A field that may be absent, either not there or with no value. -/
def Fields.optional (fs : Fields) (name : String) (others : List String)
    (read : Value → Checked α) : Checked (Option α) :=
  fs.withDefault name others none (Value.toNullable read)

/-- The name under which a field is given, out of its names. -/
def Fields.nameUsed (fs : Fields) (names : List String) : Option String :=
  (fs.lookup names).map Prod.fst

/-- A key as a name.  It has to be a text, for which octets do not stand here, and without
surrogates. -/
def Key.toName (k : Key) : Checked String :=
  match k.str? with
  | some s => if Text.hasSurrogates s.toList then .fault .unreadableText else .valid s
  | none => (Checked.fault .keyNotText).under k.step

/-- Whether a key is a text that is no name. -/
def Key.isUnreadable (k : Key) : Bool :=
  k.str?.any fun s => Text.hasSurrogates s.toList

/-- The entries other than those with the names given.  Every key has to be a name. -/
def checkUndeclared (used : List String) : Fields → Checked (List (String × Value))
  | [] => .valid []
  | (k, v) :: fs =>
    match k.toName with
    | .valid s =>
      if s ∈ used then checkUndeclared used fs else (checkUndeclared used fs).map ((s, v) :: ·)
    | .invalid faults => (Checked.invalid faults).apply (checkUndeclared used fs)

/-- The entries of a mapping that are no fields of its model, whose fields have the names given. -/
def Fields.undeclared (fs : Fields) (names : List (List String)) :
    Checked (List (String × Value)) :=
  checkUndeclared (names.filterMap fs.nameUsed) fs

/-- What is read from a mapping.  A text with surrogates among its keys is the only fault, whatever
else is wrong. -/
def Fields.ifNamed (fs : Fields) (c : Checked α) : Checked α :=
  if fs.any fun f => f.1.isUnreadable then .fault .unreadableText else c

/-! ### Models -/

/-- What is read from the entries of a mapping. -/
structure Model (α : Type) where
  name : String
  ofFields : Fields → Checked α

/-- A model read from a value. -/
def Model.read (m : Model α) (v : Value) : Checked α :=
  match v.fields? with
  | some fs => m.ofFields fs
  | none => .fault (.notModel m.name)

end ServerActions
