import ServerActions.Text.Blank
import ServerActions.Text.Digit
import ServerActions.Text.Quoted

/-!
# Actions in markup

A tag that begins with an at sign names an action with its arguments, which have to be literals:
numbers, texts, truth values, and tuples, sets and mappings of those.

## Main definitions

* `Token`, `tokens` — the parts of a literal.
* `expression` — the grammar, which knows operators and calls too, though no literal has them.
* `actionFault?` — what is wrong with the parameters of an action.
-/

namespace ServerActions.Console

/-- The wording of a mistake that is of no special kind. -/
def badSyntax : String := "invalid syntax"

/-- The wording of a mistake between two values that follow each other. -/
def missingComma : String := "invalid syntax. Perhaps you forgot a comma?"

/-- The wording of a mistake in a number. -/
def badNumber : String := "invalid decimal literal"

/-! ### Tokens -/

/-- A part of a literal. -/
inductive Token
  | name (s : String)
  | number
  | imaginary
  | text
  | opening (c : Char)
  | closing (c : Char)
  | operator (s : String)
  deriving DecidableEq, Repr

/-- A character of names. -/
def isNamed (c : Char) : Bool := c.isAlphanum || c = '_' || 128 ≤ c.toNat

/-- The closing bracket that goes with an opening one. -/
def partner (c : Char) : Char := if c = '(' then ')' else '\x7d'

/-- The operators of several characters, the longest first. -/
def longOperators : List String :=
  ["...", "**=", "//=", "<<=", ">>=", "**", "//", "<<", ">>", "==", "!=", "<=", ">=", "->", ":=",
   "+=", "-=", "*=", "/=", "%=", "&=", "|=", "^=", "@="]

/-- The operator at the head of a text. -/
def operatorAt (cs : List Char) : String :=
  (longOperators.find? fun o => o.toList.isPrefixOf cs).getD (String.ofList (cs.take 1))

/-- The digits at the head of a text, with single underscores between them. -/
def digitsAt : List Char → List Char
  | '_' :: d :: cs => if d.isDigit then '_' :: d :: digitsAt cs else []
  | d :: cs => if d.isDigit then d :: digitsAt cs else []
  | [] => []

/-- The words that may follow a number without a gap. -/
def afterNumber : List String := ["and", "else", "for", "if", "in", "is", "not", "or"]

/-- The digits of the power of ten at the head of a text, with its letter and its sign. -/
def powerAt (cs : List Char) : List Char :=
  match cs with
  | e :: rest =>
    if e = 'e' || e = 'E' then
      let sign := (rest.take 1).filter fun c => c = '+' || c = '-'
      let digits := digitsAt (rest.drop sign.length)
      if digits.isEmpty then [] else e :: sign ++ digits
    else []
  | [] => []

/-- The number at the head of a text, and the text after it. -/
def numberAt (cs : List Char) : Except String (Token × List Char) :=
  let whole := digitsAt cs
  let rest := cs.drop whole.length
  let point := (rest.take 1).filter (· = '.')
  let decimals := if point.isEmpty then [] else digitsAt (rest.drop 1)
  let rest := rest.drop (point.length + decimals.length)
  let power := powerAt rest
  let rest := rest.drop power.length
  let unit := (rest.take 1).filter fun c => c = 'j' || c = 'J'
  let rest := rest.drop unit.length
  let isWhole := point.isEmpty && power.isEmpty && unit.isEmpty
  if isWhole && whole.head? = some '0' && whole.any fun c => c ≠ '0' then
    .error ("leading zeros in decimal integer literals are not permitted; "
      ++ "use an 0o prefix for octal integers")
  else if (rest.head?.any fun c => isNamed c && c.toNat < 128)
      && !afterNumber.any fun w => w.toList.isPrefixOf rest then
    .error (if unit.isEmpty then badNumber else "invalid imaginary literal")
  else .ok (if unit.isEmpty then .number else .imaginary, rest)

/-- The text between quotes at the head of a text, and the text after it. -/
def quotedAt (quote : Char) : List Char → Option (List Char)
  | [] => none
  | '\\' :: _ :: cs => quotedAt quote cs
  | c :: cs => if c = quote then some cs else if c = '\n' then none else quotedAt quote cs

/-- The letters that may stand in front of a quote. -/
def quotePrefixes : List String :=
  ["", "r", "b", "u", "f", "rb", "br", "fr", "rf"]

/-- The tokens of a text, each with the count of brackets that are open after it. -/
def tokens : Nat → List Char → List Char → Except String (List (Token × Nat))
  | 0, _, _ => .ok []
  | _, _, [] => .ok []
  | bound + 1, opened, c :: cs =>
    let add (t : Token) (opened : List Char) (rest : List Char) :
        Except String (List (Token × Nat)) :=
      (tokens bound opened rest).map ((t, opened.length) :: ·)
    if c = ' ' || c = '\t' || c = '\n' then tokens bound opened cs
    else if c = '(' || c = '\x7b' then add (.opening c) (c :: opened) cs
    else if c = ')' || c = '\x7d' then
      match opened with
      | [] => .error ("unmatched '" ++ String.singleton c ++ "'")
      | o :: outer =>
        if partner o = c then add (.closing c) outer cs
        else .error ("closing parenthesis '" ++ String.singleton c
          ++ "' does not match opening parenthesis '" ++ String.singleton o ++ "'")
    else if c.isDigit || (c = '.' && cs.head?.any Char.isDigit) then
      match numberAt (c :: cs) with
      | .ok (t, rest) => add t opened rest
      | .error e => .error e
    else
      let word := (c :: cs).takeWhile isNamed
      match (c :: cs).drop word.length with
      | q :: rest =>
        if (q = '"' || q = '\x27')
            && quotePrefixes.contains (String.ofList (word.map Char.toLower)) then
          match quotedAt q rest with
          | some rest => add .text opened rest
          | none => .error "unterminated string literal (detected at line 1)"
        else if !word.isEmpty then add (.name (String.ofList word)) opened (q :: rest)
        else
          let o := operatorAt (c :: cs)
          add (.operator o) opened ((c :: cs).drop o.length)
      | [] => add (.name (String.ofList word)) opened []

/-! ### Grammar -/

/-- What an expression is: a literal, a number that may have a sign, or none of both. -/
inductive Kind
  | number
  | imaginary
  | literal
  | other
  deriving DecidableEq, Repr

/-- The tokens still to be read. -/
abbrev Tokens := List (Token × Nat)

/-- The kind of what was read, and the tokens after it, or the tokens at which there is a
mistake. -/
abbrev Parsed := Except (String × Tokens) (Kind × Tokens)

/-- The signs that may stand in front of a value. -/
def signs : List Token := [.operator "-", .operator "+", .operator "~", .name "not"]

/-- The operators between two values. -/
def between : List Token :=
  ["+", "-", "*", "/", "%", "@", "&", "|", "^", "<", ">", "**", "//", "<<", ">>", "==", "!=", "<=",
    ">="].map Token.operator ++ ["and", "or", "in", "is", "if"].map Token.name

/-- The words that are no names of values. -/
def keywords : List String :=
  ["and", "as", "assert", "async", "await", "break", "class", "continue", "def", "del", "elif",
   "else", "except", "finally", "for", "from", "global", "if", "import", "in", "is", "lambda",
   "nonlocal", "not", "or", "pass", "raise", "return", "try", "while", "with", "yield"]

/-- The names of values. -/
def constants : List String := ["True", "False", "None"]

/-- The texts that follow each other, which make one. -/
def skipTexts : Tokens → Tokens
  | (.text, _) :: ts => skipTexts ts
  | ts => ts

/-- The kind of two numbers with a sign between them: only a real and an imaginary one make a
number. -/
def Kind.joined (op : Token) (a b : Kind) : Kind :=
  if (op = .operator "+" || op = .operator "-") && a = .number && b = .imaginary then .literal
  else .other

/-- The kind of a whole of which some parts are of a kind. -/
def Kind.whole (a b : Kind) : Kind :=
  if a = .other || b = .other then .other else .literal

/-- The wording of an equals sign behind the value at the head of tokens. -/
def assignmentMistake : Tokens → String
  | (.name s, _) :: (.operator "=", _) :: _ =>
    if constants.contains s then badSyntax
    else "invalid syntax. Maybe you meant '==' or ':=' instead of '='?"
  | (t, _) :: (.operator "=", _) :: _ =>
    if t = .number || t = .imaginary || t = .text then
      "cannot assign to literal here. Maybe you meant '==' instead of '='?"
    else badSyntax
  | _ => badSyntax

/-- The wording of a backslash that ends no line. -/
def strayBackslash : String := "unexpected character after line continuation character"

mutual
/-- A value with the operators and values after it. -/
def expression : Nat → Tokens → Parsed
  | 0, ts => .error (badSyntax, ts)
  | bound + 1, ts => do
    let (a, rest) ← operand bound ts
    match rest with
    | (op, _) :: more =>
      if between.contains op then
        let (b, rest) ← expression bound more
        return (a.joined op b, rest)
      else return (a, rest)
    | [] => return (a, [])

/-- A value, perhaps with signs in front of it, and calls and attributes behind it. -/
def operand : Nat → Tokens → Parsed
  | 0, ts => .error (badSyntax, ts)
  | bound + 1, ts =>
    match ts with
    | (t, _) :: rest =>
      if signs.contains t then do
        let (k, rest) ← operand bound rest
        let isSigned := (t = .operator "-" || t = .operator "+") && rest.length + 2 = ts.length
        return (if isSigned && (k = .number || k = .imaginary) then k else .other, rest)
      else match t with
        | .number => trailers bound .number rest
        | .imaginary => trailers bound .imaginary rest
        | .text => trailers bound .literal (skipTexts rest)
        | .operator "..." => trailers bound .literal rest
        | .name s =>
          if keywords.contains s then .error (badSyntax, ts)
          else trailers bound (if constants.contains s then .literal else .other) rest
        | .opening c => do
          let (k, rest) ← elements bound (c = '\x7b') true .literal rest
          trailers bound k rest
        | _ => .error (badSyntax, ts)
    | [] => .error (badSyntax, ts)

/-- The calls and attributes behind a value. -/
def trailers : Nat → Kind → Tokens → Parsed
  | 0, _, ts => .error (badSyntax, ts)
  | bound + 1, k, ts =>
    match ts with
    | (.operator ".", _) :: (.name _, _) :: rest => trailers bound .other rest
    | (.operator ".", _) :: rest => .error (badSyntax, rest)
    | (.opening '(', _) :: rest => do
      let (_, rest) ← elements bound false true .literal rest
      trailers bound .other rest
    | _ => .ok (k, ts)

/-- The values up to a closing bracket, with commas between them, and in braces perhaps in pairs. -/
def elements : Nat → Bool → Bool → Kind → Tokens → Parsed
  | 0, _, _, _, ts => .error (badSyntax, ts)
  | bound + 1, inBraces, first, k, ts =>
    match ts with
    | (.closing _, _) :: rest => .ok (k, rest)
    | _ => do
      let (a, rest) ← expression bound ts
      let (a, rest) ←
        match inBraces, rest with
        | true, (.operator ":", _) :: (.closing c, n) :: rest =>
          .error ("expression expected after dictionary key and ':'", (.closing c, n) :: rest)
        | true, (.operator ":", _) :: rest => do
          let (b, rest) ← expression bound rest
          pure (a.whole b, rest)
        | _, _ => pure (a, rest)
      match rest with
      | (.closing _, _) :: after =>
        return (if first && !inBraces then a else k.whole a, after)
      | (.operator ",", _) :: more => elements bound inBraces false (k.whole a) more
      | (.operator "=", _) :: more =>
        match expression bound more with
        | .ok _ => .error (assignmentMistake ts, rest)
        | .error (_, at') => .error (badSyntax, if at'.isEmpty then [] else rest)
      | _ =>
        match expression bound rest with
        | .ok (_, after) =>
          let isNamedText := match ts, rest with
            | (.name _, _) :: (.text, _) :: _, _ => true
            | _, _ => false
          .error (if isNamedText then badSyntax else missingComma, after)
        | .error (_, at') => .error (badSyntax, if at'.isEmpty then [] else rest)
end

/-- The values with commas between them that a whole text is made of. -/
def sequence : Nat → Kind → Tokens → Parsed
  | 0, _, ts => .error (badSyntax, ts)
  | bound + 1, k, ts => do
    let (a, rest) ← expression (3 * ts.length + 3) ts
    match rest with
    | [] => return (k.whole a, [])
    | (.operator ",", _) :: [] => return (k.whole a, [])
    | (.operator ",", _) :: more => sequence bound (k.whole a) more
    | _ =>
      match expression (3 * ts.length + 3) rest with
      | .error (_, []) => .error (badSyntax, [])
      | _ => .error (badSyntax, rest)

/-! ### Parameters -/

/-- The bracket that is open at the end of tokens, each of which is a bracket or not. -/
def openAtEnd (ts : Tokens) : Option Char :=
  (ts.foldl (fun opened t =>
    match t.1 with
    | .opening c => c :: opened
    | .closing _ => opened.drop 1
    | _ => opened) []).head?

/-- What keeps a text from being a literal. -/
def literalFault? (cs : List Char) : Option String :=
  match tokens (cs.length + 1) [] cs with
  | .error e => some e
  | .ok ts =>
    match sequence (ts.length + 1) .literal ts with
    | .ok (.other, _) => some "malformed node or string on line 1"
    | .ok _ => none
    | .error (wording, at') =>
      match at', openAtEnd ts with
      | [], some c => some ("'" ++ String.singleton c ++ "' was never closed")
      | (.operator "\\", _) :: _, _ => some strayBackslash
      | _, _ => some wording

/-- The arguments of an action with its name in front of them; a name alone has none. -/
def argumentsOf (cs : List Char) : List Char :=
  let name := cs.takeWhile fun c => isNamed c || c = '.'
  match cs.drop name.length with
  | [] => "()".toList
  | '(' :: rest =>
    if rest.getLast? = some ')' && !rest.contains '\n' then '(' :: rest else cs
  | _ => cs

/-- What is wrong with the parameters of an action, if it has some. -/
def actionFault? (parameters : List Char) : Option String :=
  if parameters.isEmpty then none
  else
    let asked := argumentsOf (Text.trim parameters)
    (literalFault? asked).map fun wording =>
      let quote (cs : List Char) : String := String.ofList (Text.quoted cs)
      if wording.startsWith "malformed" then
        "error parsing " ++ quote parameters ++ "; " ++ wording
      else
        "error parsing " ++ quote asked ++ " in " ++ quote parameters ++ "; " ++ wording

end ServerActions.Console
