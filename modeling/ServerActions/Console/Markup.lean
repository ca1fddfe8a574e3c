import ServerActions.Console.Action
import ServerActions.Console.Emoji
import ServerActions.Console.Style

/-!
# Markup on the console

Texts that are printed with tags in square brackets, which set the style of what stands between an
opening tag and the tag that closes it.  Only the text without its styles is of interest here.

## Main definitions

* `Piece`, `pieces` — the texts and the tags that a text with markup is made of.
* `plainText` — the text that is printed, or the tag that closes nothing.
* `escape` — a text in which nothing is a tag.
-/

namespace ServerActions.Console

/-- What is wrong with a closing tag. -/
inductive MarkupFault
  /-- It closes the last tag, and none is open. -/
  | nothingOpen (position : Nat)
  /-- It closes a tag that is not open. -/
  | notOpen (tag : String) (position : Nat)
  /-- It closes an action whose parameters are no literals. -/
  | badAction (wording : String)
  deriving DecidableEq, Repr

/-- The wording of a fault. -/
def MarkupFault.message : MarkupFault → String
  | .nothingOpen position =>
    "closing tag '[/]' at position " ++ toString position ++ " has nothing to close"
  | .notOpen tag position =>
    "closing tag '" ++ tag ++ "' at position " ++ toString position ++ " doesn't match any open tag"
  | .badAction wording => wording

/-! ### Tags -/

/-- The characters that a tag begins with. -/
def startsTag (c : Char) : Bool :=
  ('a' ≤ c && c ≤ 'z') || c = '#' || c = '/' || c = '@'

/-- The tag at the head of a text without its brackets, and the text after it. -/
def tagAt (cs : List Char) : Option (List Char × List Char) :=
  match cs with
  | '[' :: c :: rest =>
    let body := rest.takeWhile fun x => x ≠ ']' && x ≠ '['
    match startsTag c, rest.drop body.length with
    | true, ']' :: after => some (c :: body, after)
    | _, _ => none
  | _ => none

/-- A part of a text with markup.  A tag has a position. -/
inductive Piece
  | text (cs : List Char)
  | tag (cs : List Char) (position : Nat)
  deriving DecidableEq, Repr

/-- A piece of text, unless it is empty. -/
def textPiece (cs : List Char) : List Piece :=
  if cs.isEmpty then [] else [.text cs]

/-- The pieces of a text from a position on, after the text `before` that belongs to the first
piece.  Of the backslashes before a tag each two stand for one, and one that is left over makes
the tag a text. -/
def pieces : Nat → Nat → List Char → List Char → List Piece
  | 0, _, before, cs => textPiece (before ++ cs)
  | _, _, before, [] => textPiece before
  | bound + 1, position, before, c :: cs =>
    let slashes := ((c :: cs).takeWhile (· = '\\')).length
    match tagAt ((c :: cs).drop slashes) with
    | none => pieces bound (position + 1) (before ++ [c]) cs
    | some (tag, rest) =>
      let kept := List.replicate (slashes / 2) '\\'
      let this : Piece :=
        if slashes % 2 = 0 then .tag tag (position + slashes)
        else .text ('[' :: tag ++ [']'])
      textPiece before ++ textPiece kept
        ++ this :: pieces bound (position + slashes + tag.length + 2) [] rest

/-- The name of a tag without its parameters. -/
def tagName (cs : List Char) : List Char := cs.takeWhile (· ≠ '=')

/-! ### Printing -/

/-- The characters that are not printed. -/
def isUnprinted (c : Char) : Bool := [7, 8, 11, 12, 13].contains c.toNat

/-- A text in which a bracket after a backslash stands for itself. -/
def withBrackets : List Char → List Char
  | '\\' :: '[' :: cs => '[' :: withBrackets cs
  | c :: cs => c :: withBrackets cs
  | [] => []

/-- A tag that is open: the name by which it is closed, and its parameters. -/
structure OpenTag where
  name : String
  parameters : List Char
  deriving DecidableEq, Repr

/-- A tag as one that is open. -/
def OpenTag.ofTag (tag : List Char) : OpenTag :=
  let name := tagName tag
  ⟨styleName name, tag.drop (name.length + 1)⟩

/-- The fault that shows when a tag is closed. -/
def OpenTag.fault? (t : OpenTag) : Option MarkupFault :=
  if t.name.startsWith "@" then (actionFault? t.parameters).map .badAction else none

/-- The open tags without one that is closed. -/
def closing (t : OpenTag) (rest : List OpenTag) : Except MarkupFault (List OpenTag) :=
  match t.fault? with
  | some f => .error f
  | none => .ok rest

/-- The tags that are open after a tag. -/
def afterTag (opened : List OpenTag) (tag : List Char) (position : Nat) :
    Except MarkupFault (List OpenTag) :=
  match tagName tag with
  | '/' :: name =>
    if (Text.trim name).isEmpty then
      match opened with
      | [] => .error (.nothingOpen position)
      | t :: rest => closing t rest
    else
      match opened.find? fun t => t.name = styleName (Text.trim name) with
      | some t => closing t (opened.erase t)
      | none => .error (.notOpen (String.ofList ('[' :: tag ++ [']'])) position)
  | _ => .ok (.ofTag tag :: opened)

/-- A piece of text as it is printed. -/
def pieceText (cs : List Char) : List Char :=
  (withEmoji (cs.length + 1) (withBrackets cs)).filter (!isUnprinted ·)

/-- The text of pieces of which some tags before are open. -/
def textOfPieces : List OpenTag → List Piece → Except MarkupFault (List Char)
  | _, [] => .ok []
  | opened, .text cs :: rest => (textOfPieces opened rest).map (pieceText cs ++ ·)
  | opened, .tag tag position :: rest => do
    textOfPieces (← afterTag opened tag position) rest

/-- The text that is printed for a text with markup. -/
def plainText (s : String) : Except MarkupFault (List Char) :=
  textOfPieces [] (pieces (s.length + 1) 0 [] s.toList)

/-- The text with a backslash before each tag, and with those before it doubled. -/
def escapeTags : Nat → List Char → List Char
  | 0, cs => cs
  | _, [] => []
  | bound + 1, c :: cs =>
    let slashes := ((c :: cs).takeWhile (· = '\\')).length
    match tagAt ((c :: cs).drop slashes) with
    | none => c :: escapeTags bound cs
    | some (tag, rest) =>
      List.replicate (2 * slashes + 1) '\\' ++ '[' :: tag ++ ']' :: escapeTags bound rest

/-- A text in which nothing is a tag.  A single backslash at its end is doubled. -/
def escape (s : String) : String :=
  let cs := escapeTags (s.length + 1) s.toList
  let ending := (cs.reverse.takeWhile (· = '\\')).length
  String.ofList (if ending = 1 then cs ++ ['\\'] else cs)

end ServerActions.Console
