import ServerActions.Yaml.Building

/-!
# Reading YAML

The value that a text denotes.

## Main definitions

* `read` — the value of a text.
-/

namespace ServerActions.Yaml

/-- The code points that a text may hold: all that can be printed, the blanks and the ends of
lines. -/
def isPrintable (n : Nat) : Bool :=
  n = 9 || n = 10 || n = 13 || (0x20 ≤ n && n ≤ 0x7E) || n = 0x85 || (0xA0 ≤ n && n ≤ 0xD7FF)
    || (0xE000 ≤ n && n ≤ 0xFFFD) || 0x10000 ≤ n

/-- The value of a text; a text without any document denotes null. -/
def read (cs : List Char) : Except Fault Value := do
  if !(Text.points cs).all isPrintable then throw .malformed
  match ← Graph.ofText? cs with
  | none => return .null
  | some g => g.value

end ServerActions.Yaml
