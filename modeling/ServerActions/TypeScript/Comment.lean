import ServerActions.Text.Lines

/-!
# Documentation comments

The lines of a comment made from free text, and the comment itself.

## Main definitions

* `commentLines` — a text as lines none of which can end a comment.
* `docLines` — the lines for a summary, a description and the mark of what is deprecated.
* `docComment?` — the comment of given lines, if there are any.
-/

namespace ServerActions.TypeScript

/-- The text in which a star and a slash no longer end a comment. -/
def breakCommentEnd : List Char → List Char
  | [] => []
  | '*' :: '/' :: cs => '*' :: '\\' :: '/' :: breakCommentEnd cs
  | c :: cs => c :: breakCommentEnd cs

/-- A text as lines of a comment: without its margin, without the blanks around it and without those
at the end of each line. -/
def commentLines (text : List Char) : List (List Char) :=
  (Text.lineTexts (breakCommentEnd (Text.trim (Text.dedent text)))).map Text.trimRight

/-- The lines of a text that may be absent. -/
def commentLines? : Option String → List String
  | none => []
  | some text => (commentLines text.toList).map String.ofList

/-- The lines of the comment for an operation. -/
def docLines (summary description : Option String) (deprecated : Bool) : List String :=
  commentLines? summary ++ commentLines? description ++ (if deprecated then ["@deprecated"] else [])

/-- A line inside a comment. -/
def docLine (line : String) : String :=
  String.ofList (Text.trimRight (" * ".toList ++ line.toList))

/-- The comment of given lines, if there are any. -/
def docComment? (lines : List String) : Option String :=
  if lines.isEmpty then none
  else some ("/**\n" ++ "\n".intercalate (lines.map docLine) ++ "\n */")

end ServerActions.TypeScript
