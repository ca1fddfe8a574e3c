import ServerActions.Text.Surrogate

/-!
# Wildcard patterns

Patterns in which a star stands for any text, a question mark for any code point and brackets for
one of a set of code points.

## Main definitions

* `Element`, `elements` — the parts of a pattern, and a pattern cut into them.
* `setOf` — the code points that stand for what is written between brackets.
* `accepts` — whether a text fits a pattern.
-/

namespace ServerActions.Text.Glob

/-- A part of a pattern. -/
inductive Element
  /-- Any text. -/
  | many
  /-- Any code point. -/
  | one
  /-- A code point of one of the ranges or, when negated, of none. -/
  | set (negated : Bool) (ranges : List (Nat × Nat))
  deriving DecidableEq, Repr

/-- The part that stands for one code point. -/
def Element.literal (n : Nat) : Element :=
  .set false [(n, n)]

/-- Whether a part of a pattern fits a code point. -/
def Element.accepts (e : Element) (n : Nat) : Bool :=
  match e with
  | .many => true
  | .one => true
  | .set negated ranges => (ranges.any fun r => r.1 ≤ n && n ≤ r.2) != negated

/-- Whether a code point is that of a character. -/
def isPoint (c : Char) (n : Nat) : Bool := n = c.toNat

/-! ### Sets -/

/-- The text cut at the hyphens that make a range.  Such a hyphen comes after at least `least`
further code points; between two of them are two or more. -/
def chunksFrom (current : List Nat) (least : Nat) : List Nat → List (List Nat)
  | [] => [current.reverse]
  | n :: ns =>
    if isPoint '-' n ∧ least = 0 then current.reverse :: chunksFrom [] 2 ns
    else chunksFrom (n :: current) (least - 1) ns

/-- The chunks, of which an empty last one gives its hyphen back to the one before. -/
def withFinalHyphen : List (List Nat) → List (List Nat)
  | [a, []] => [a ++ ['-'.toNat]]
  | a :: as => a :: withFinalHyphen as
  | [] => []

/-- The chunks without the ranges that run backwards: their two ends are dropped, and the chunks
on both sides become one. -/
def dropBackward : List (List Nat) → List (List Nat)
  | [] => []
  | a :: as =>
    match dropBackward as with
    | [] => [a]
    | b :: bs =>
      match a.getLast?, b.head? with
      | some x, some y => if y < x then (a.dropLast ++ b.tail) :: bs else a :: b :: bs
      | _, _ => a :: b :: bs

/-- A code point of a set, or the hyphen of a range. -/
inductive Mark
  | point (n : Nat)
  | hyphen
  deriving DecidableEq, Repr

/-- The code point that a mark is when it makes no range. -/
def Mark.toPoint : Mark → Nat
  | .point n => n
  | .hyphen => '-'.toNat

/-- The chunks as marks, with hyphens between them. -/
def marks : List (List Nat) → List Mark
  | [] => []
  | [a] => a.map .point
  | a :: as => a.map .point ++ .hyphen :: marks as

/-- The ranges that marks stand for. -/
def ranges : List Mark → List (Nat × Nat)
  | [] => []
  | l :: .hyphen :: m :: ms => (l.toPoint, m.toPoint) :: ranges ms
  | m :: ms => (m.toPoint, m.toPoint) :: ranges ms

/-- The part of a pattern that is written between brackets.  An exclamation mark in front negates
the set; alone it stands for any code point. -/
def setOf (ns : List Nat) : Element :=
  let least := if ns.head?.any (isPoint '!') then 2 else 1
  match marks (dropBackward (withFinalHyphen (chunksFrom [] least ns))) with
  | .point n :: ms =>
    if isPoint '!' n then (if ms.isEmpty then .one else .set true (ranges ms))
    else .set false (ranges (.point n :: ms))
  | ms => .set false (ranges ms)

/-- What is written between an opening bracket and the bracket that closes it.  The first code
point, or the one after an exclamation mark, closes nothing. -/
def bracketed? (ns : List Nat) : Option (List Nat) :=
  let first := if ns.head?.any (isPoint '!') then 1 else 0
  let first := if ns[first]?.any (isPoint ']') then first + 1 else first
  let rest := ns.drop first
  if rest.any (isPoint ']') then some (ns.take first ++ rest.takeWhile (!isPoint ']' ·)) else none

/-! ### Patterns -/

/-- The parts of a pattern after `skip` code points of it. -/
def elementsFrom (skip : Nat) : List Nat → List Element
  | [] => []
  | n :: ns =>
    match skip with
    | skip + 1 => elementsFrom skip ns
    | 0 =>
      if isPoint '*' n then .many :: elementsFrom 0 ns
      else if isPoint '?' n then .one :: elementsFrom 0 ns
      else if isPoint '[' n then
        match bracketed? ns with
        | some inner => setOf inner :: elementsFrom (inner.length + 1) ns
        | none => .literal n :: elementsFrom 0 ns
      else .literal n :: elementsFrom 0 ns

/-- The parts of a pattern. -/
def elements (pattern : List Char) : List Element :=
  elementsFrom 0 (points pattern)

/-- For each end of a text whether it or some shorter end of it is marked. -/
def someShorter : List Bool → List Bool
  | [] => []
  | b :: bs =>
    let rest := someShorter bs
    (b || rest.headD false) :: rest

/-- For each end of a text whether the part fits its first code point and the rest is marked. -/
def firstFits (e : Element) : List Nat → List Bool → List Bool
  | n :: ns, _ :: bs => (e.accepts n && bs.headD false) :: firstFits e ns bs
  | _, _ => [false]

/-- For each end of a text, from the whole text to the empty one, whether it fits the parts. -/
def fits (ns : List Nat) : List Element → List Bool
  | [] => ns.map (fun _ => false) ++ [true]
  | .many :: es => someShorter (fits ns es)
  | e :: es => firstFits e ns (fits ns es)

/-- Whether a text fits a pattern. -/
def accepts (pattern text : List Char) : Bool :=
  (fits (points text) (elements pattern)).headD false

end ServerActions.Text.Glob
