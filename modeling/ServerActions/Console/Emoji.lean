import ServerActions.Console.EmojiNames
import ServerActions.Text.Blank
import ServerActions.Text.Lowercase

/-!
# Emoji

Names of emoji between colons, which stand for the emoji.

## Main definitions

* `emoji?` — the emoji with a name, perhaps as a text or as a picture.
* `withEmoji` — a text with emoji for their names.
-/

namespace ServerActions.Console

/-- The endings of a name that tell how the emoji is to be shown, with the characters for them. -/
def variants : List (String × Char) :=
  [("-text", '\uFE0E'), ("-emoji", '\uFE0F')]

/-- A name without an ending that tells how the emoji is to be shown, and the character for it. -/
def withoutVariant (name : List Char) : List Char × List Char :=
  match variants.find? fun v => v.1.toList.isSuffixOf name with
  | some (ending, c) => (name.take (name.length - ending.length), [c])
  | none => (name, [])

/-- The emoji with a name; capitals do not count. -/
def emoji? (name : List Char) : Option (List Char) :=
  let (name, variant) := withoutVariant name
  (emojiNames.lookup (String.ofList (Text.lower name))).map (· ++ variant)

/-- A text with emoji for their names between colons.  A name that there is not stays with its
colons, and neither of them belongs to another name. -/
def withEmoji : Nat → List Char → List Char
  | 0, cs => cs
  | _, [] => []
  | bound + 1, c :: cs =>
    if c = ':' then
      let name := cs.takeWhile fun x => x ≠ ':' && !Text.isBlank x
      match cs.drop name.length with
      | ':' :: rest => (emoji? name).getD (':' :: name ++ [':']) ++ withEmoji bound rest
      | _ => c :: withEmoji bound cs
    else c :: withEmoji bound cs

end ServerActions.Console
