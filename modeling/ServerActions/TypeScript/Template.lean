/-!
# Template literals

Text inside a template literal, and the placeholders of a path that become its interpolations.

## Main definitions

* `escapeTemplate` — a text written so that a template literal reads it back as it is.
* `interpolation` — a name between the marks of an interpolation.
* `Piece`, `pieces` — a path cut at its placeholders.
* `interpolated` — a path in which the placeholders with a known name are interpolations.

## Main statements

* `flatMap_whole_pieces` — the pieces of a path, put together again, are the path.
-/

namespace ServerActions.TypeScript

/-- A text written so that a template literal reads it back as it is: a backslash goes before every
backslash, every backtick and every dollar sign that an opening brace follows. -/
def escapeTemplate : List Char → List Char
  | [] => []
  | '\\' :: cs => '\\' :: '\\' :: escapeTemplate cs
  | '\x60' :: cs => '\\' :: '\x60' :: escapeTemplate cs
  | '$' :: cs =>
    if cs.head? = some '\x7b' then '\\' :: '$' :: escapeTemplate cs else '$' :: escapeTemplate cs
  | c :: cs => c :: escapeTemplate cs

/-- A name between the marks of an interpolation. -/
def interpolation (name : List Char) : List Char :=
  ['$', '\x7b'] ++ name ++ ['\x7d']

/-- A part of a path: a character that stands for itself, or a placeholder. -/
inductive Piece
  | char (c : Char)
  | placeholder (name : List Char)
  deriving DecidableEq, Repr

/-- The piece as it is written. -/
def Piece.whole : Piece → List Char
  | .char c => [c]
  | .placeholder name => ['\x7b'] ++ name ++ ['\x7d']

/-- The pieces of a path.  A placeholder is one or more characters other than braces between an
opening and a closing brace.  `opened` holds the characters after an opening brace, the last one
first, when that brace may still begin a placeholder. -/
def piecesFrom (opened : Option (List Char)) : List Char → List Piece
  | [] =>
    match opened with
    | none => []
    | some name => .char '\x7b' :: name.reverse.map .char
  | c :: cs =>
    match opened with
    | none => if c = '\x7b' then piecesFrom (some []) cs else .char c :: piecesFrom none cs
    | some name =>
      if c = '\x7b' then
        .char '\x7b' :: name.reverse.map .char ++ piecesFrom (some []) cs
      else if c = '\x7d' then
        if name.isEmpty then .char '\x7b' :: .char '\x7d' :: piecesFrom none cs
        else .placeholder name.reverse :: piecesFrom none cs
      else piecesFrom (some (c :: name)) cs

/-- The pieces of a path. -/
def pieces (cs : List Char) : List Piece :=
  piecesFrom none cs

/-- The piece with its placeholder made an interpolation where the name is known. -/
def Piece.interpolated (binding? : List Char → Option (List Char)) : Piece → List Char
  | .char c => [c]
  | .placeholder name =>
    match binding? name with
    | some b => interpolation b
    | none => Piece.whole (.placeholder name)

/-- The path with each placeholder of a known name made an interpolation. -/
def interpolated (binding? : List Char → Option (List Char)) (cs : List Char) : List Char :=
  (pieces cs).flatMap (Piece.interpolated binding?)

/-- The pieces of a text together are the text after an opening brace and what follows it. -/
private theorem flatMap_whole_piecesFrom (opened : Option (List Char)) (cs : List Char) :
    (piecesFrom opened cs).flatMap Piece.whole =
      (match opened with | none => [] | some name => '\x7b' :: name.reverse) ++ cs := by
  have chars (l : List Char) : (l.map Piece.char).flatMap Piece.whole = l := by
    induction l with
    | nil => rfl
    | cons c l ih => simpa [Piece.whole] using ih
  induction cs generalizing opened with
  | nil =>
    cases opened with
    | none => rfl
    | some name => simp only [piecesFrom, List.flatMap_cons, chars, Piece.whole]; simp
  | cons c cs ih =>
    cases opened with
    | none =>
      by_cases h : c = '\x7b' <;> simp [piecesFrom, h, ih, Piece.whole]
    | some name =>
      by_cases h : c = '\x7b'
      · simp only [piecesFrom, h, if_true, List.cons_append, List.flatMap_cons,
          List.flatMap_append, chars, ih, Piece.whole]
        simp
      · by_cases h' : c = '\x7d'
        · cases name with
          | nil => simp [piecesFrom, h', ih, Piece.whole]
          | cons n ns => simp [piecesFrom, h', ih, Piece.whole]
        · simp [piecesFrom, h, h', ih]

/-- The pieces of a path, put together again, are the path. -/
theorem flatMap_whole_pieces (cs : List Char) : (pieces cs).flatMap Piece.whole = cs := by
  rw [pieces, flatMap_whole_piecesFrom, List.nil_append]

end ServerActions.TypeScript
