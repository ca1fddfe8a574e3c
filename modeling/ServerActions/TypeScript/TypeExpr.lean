import ServerActions.TypeScript.Identifier

/-!
# Type expressions

The types that the generated functions speak of, and how they are written.

## Main definitions

* `Member`, `TypeExpr` — a property of a record type, and a type expression.
* `TypeExpr.text` — a type expression as it is written.
* `TypeExpr.orNull` — the type of what a call returns: the payload, or `null` when the call fails.
-/

namespace ServerActions.TypeScript

/-- A property of a record type. -/
structure Member (τ : Type) where
  name : String
  type : τ
  optional : Bool
  deriving DecidableEq, Repr

/-- A type expression. -/
inductive TypeExpr
  /-- A type with a name of its own. -/
  | prim (name : String)
  /-- The lists of elements of a type. -/
  | array (element : TypeExpr)
  /-- The objects all of whose properties have one type. -/
  | map (value : TypeExpr)
  /-- The objects with given properties. -/
  | record (members : List (Member TypeExpr))
  /-- The values of one of several types. -/
  | union (members : List TypeExpr)
  /-- The values of several types at once. -/
  | inter (members : List TypeExpr)
  deriving Repr, Inhabited

namespace TypeExpr

/-- The type of texts. -/
def string : TypeExpr := .prim "string"

/-- The type of numbers. -/
def number : TypeExpr := .prim "number"

/-- The type of truth values. -/
def boolean : TypeExpr := .prim "boolean"

/-- The type of the absent value. -/
def null : TypeExpr := .prim "null"

/-- The type of all values, for a schema that says nothing more. -/
def any : TypeExpr := .prim "any"

/-- The type that stands in for a schema within itself. -/
def circular : TypeExpr := .prim "unknown"

/-- Whether a type is put in parentheses inside a union or an intersection. -/
def isCompound : TypeExpr → Bool
  | .union _ => true
  | .inter _ => true
  | _ => false

/-- The texts with a separator between each and the next. -/
def joined (separator : List Char) : List (List Char) → List Char
  | [] => []
  | [t] => t
  | t :: ts => t ++ separator ++ joined separator ts

mutual
/-- The characters of a type expression. -/
def chars : TypeExpr → List Char
  | .prim name => name.toList
  | .array element => "Array<".toList ++ chars element ++ ['>']
  | .map value => "Record<string, ".toList ++ chars value ++ ['>']
  | .record members => ['\x7b'] ++ joined "; ".toList (memberChars members) ++ ['\x7d']
  | .union members => joined " | ".toList (groupChars members)
  | .inter members => joined " & ".toList (groupChars members)
termination_by structural t => t

/-- The characters of each property of a record type. -/
def memberChars : List (Member TypeExpr) → List (List Char)
  | [] => []
  | ⟨name, type, optional⟩ :: ms =>
    ((propertyName name).toList ++ (if optional then ['?'] else []) ++ ": ".toList ++ chars type)
      :: memberChars ms
termination_by structural ms => ms

/-- The characters of each member of a union or an intersection, in parentheses where it is one
itself. -/
def groupChars : List TypeExpr → List (List Char)
  | [] => []
  | t :: ts =>
    (if t.isCompound then ['('] ++ chars t ++ [')'] else chars t) :: groupChars ts
termination_by structural ts => ts
end

/-- A type expression as it is written. -/
def text (t : TypeExpr) : String :=
  String.ofList t.chars

/-- The type of a call's result: the payload, or `null`.  A union takes `null` as one more
member. -/
def orNull : TypeExpr → TypeExpr
  | .union members => .union (members ++ [null])
  | t => .union [t, null]

end TypeExpr

end ServerActions.TypeScript
