import ServerActions.Json.Quoted

/-!
# Identifiers

Which texts are identifiers of TypeScript, and the names that operations, parameters and properties
get.

## Main definitions

* `isIdentifier`, `isBinding` — the texts that can be a name, and those that can be declared as one.
* `camelFold` — an underscore before a small letter makes way for the capital.
* `joinWords` — what stands between words becomes one underscore.
* `operationName` — the name of an operation.
* `bindingName` — a parameter's name made fit to be declared.
* `fresh` — a name told apart from those already taken.
* `propertyName` — a property's name, in quotes unless it is an identifier.
-/

namespace ServerActions.TypeScript

/-- The characters with which an identifier begins. -/
def isNameStart (c : Char) : Bool :=
  c.isAlpha || c = '_' || c = '$'

/-- The characters of an identifier after the first. -/
def isNameChar (c : Char) : Bool :=
  c.isAlphanum || c = '_' || c = '$'

/-- The characters of words. -/
def isWordChar (c : Char) : Bool :=
  c.isAlphanum || c = '_'

/-- What can follow the first character of an identifier; one line feed at the end is let pass. -/
def isNameTail : List Char → Bool
  | [] => true
  | ['\n'] => true
  | c :: cs => isNameChar c && isNameTail cs

/-- Whether a text is an identifier. -/
def isIdentifier : List Char → Bool
  | [] => false
  | c :: cs => isNameStart c && isNameTail cs

/-- The words that no binding of a module can have as its name. -/
def reservedWords : List String :=
  ["arguments", "await", "break", "case", "catch", "class", "const", "continue", "debugger",
   "default", "delete", "do", "else", "enum", "eval", "export", "extends", "false", "finally",
   "for", "function", "if", "implements", "import", "in", "instanceof", "interface", "let", "new",
   "null", "package", "private", "protected", "public", "return", "static", "super", "switch",
   "this", "throw", "true", "try", "typeof", "var", "void", "while", "with", "yield"]

/-- Whether a text is a reserved word. -/
def isReserved (cs : List Char) : Bool :=
  reservedWords.any fun w => w.toList = cs

/-- Whether a text can be declared as a local name. -/
def isBinding (cs : List Char) : Bool :=
  isIdentifier cs && !isReserved cs

/-- Each underscore before a small letter from a to z makes way for the capital. -/
def camelFold : List Char → List Char
  | [] => []
  | [c] => [c]
  | c :: d :: cs =>
    if c = '_' ∧ d.isLower then d.toUpper :: camelFold cs else c :: camelFold (d :: cs)

/-- Each run of characters outside words becomes one underscore; `inRun` says that the text
continues such a run. -/
def joinWordsFrom (inRun : Bool) : List Char → List Char
  | [] => []
  | c :: cs =>
    if isWordChar c then c :: joinWordsFrom false cs
    else if inRun then joinWordsFrom true cs
    else '_' :: joinWordsFrom true cs

/-- Each run of characters outside words becomes one underscore. -/
def joinWords (cs : List Char) : List Char :=
  joinWordsFrom false cs

/-- The name of an operation: the declared one unless it is empty, or else the method and the words
of the path. -/
def operationName (method path : String) (declared : Option String) : String :=
  match declared with
  | some name => if name.isEmpty then derived else folded name.toList
  | none => derived
where
  /-- A text in camel case. -/
  folded (cs : List Char) : String := String.ofList (camelFold cs)
  /-- The name made from the method and the path. -/
  derived : String := folded (method.toList ++ joinWords path.toList)

/-- The name under which a parameter can be declared: its own if that is possible, and else its
words in camel case, after an underscore where they do not begin a name. -/
def bindingChars (name : List Char) : List Char :=
  if isBinding name then name
  else
    let folded := if isIdentifier name then name else camelFold (joinWords name)
    match folded with
    | [] => ['_']
    | c :: _ => if c.isDigit || isReserved folded then '_' :: folded else folded

/-- The name under which a parameter can be declared. -/
def bindingName (name : String) : String :=
  String.ofList (bindingChars name.toList)

/-- The name after as many underscores as it takes to differ from the names taken, but at most
`bound`. -/
def freshWithin (taken : List String) : Nat → String → String
  | 0, name => name
  | bound + 1, name => if name ∈ taken then freshWithin taken bound ("_" ++ name) else name

/-- The name after as many underscores as it takes to differ from the names taken.  Of the names
with none, one, two and more underscores at most `taken.length` are taken. -/
def fresh (taken : List String) (name : String) : String :=
  freshWithin taken taken.length name

/-- The names under which parameters are declared, after those already taken. -/
def bindingsAfter (taken : List String) : List String → List String
  | [] => []
  | name :: names =>
    let b := fresh taken (bindingName name)
    b :: bindingsAfter (taken ++ [b]) names

/-- The names under which parameters are declared, each distinct from those before it. -/
def bindings (names : List String) : List String :=
  bindingsAfter [] names

/-- The name of a property in a record type: as it is when it is an identifier, and else in
quotes. -/
def propertyName (name : String) : String :=
  if isIdentifier name.toList then name else String.ofList (Json.quote name.toList)

@[simp] theorem joinWords_nil : joinWords [] = [] := rfl

@[simp] theorem bindings_nil : bindings [] = [] := rfl

/-- One name is declared per parameter. -/
@[simp] theorem length_bindingsAfter (taken names : List String) :
    (bindingsAfter taken names).length = names.length := by
  induction names generalizing taken with
  | nil => rfl
  | cons name names ih => simp [bindingsAfter, ih]

end ServerActions.TypeScript
