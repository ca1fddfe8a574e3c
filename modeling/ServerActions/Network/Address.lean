import ServerActions.Json.Reader
import ServerActions.Text.Split

/-!
# Numeric addresses

## Main definitions

* `isFourPart` — four numbers below 256 with points between them.
* `isSixteenPart` — sixteen octets in hexadecimal groups with colons between them.
* `isFutureAddress` — an address of a later version.
-/

namespace ServerActions.Network

/-- A number below 256 without zeros in front. -/
def isOctet (cs : List Char) : Bool :=
  !cs.isEmpty && cs.length ≤ 3 && cs.all Char.isDigit && (cs = ['0'] || cs.head? ≠ some '0')
    && Json.natural cs < 256

/-- Four numbers below 256 with points between them. -/
def isFourPart (cs : List Char) : Bool :=
  let parts := Text.cut '.' cs
  parts.length = 4 && parts.all isOctet

/-- Up to four hexadecimal digits. -/
def isGroup (cs : List Char) : Bool :=
  !cs.isEmpty && cs.length ≤ 4 && cs.all fun c => (Text.hexValue? c).isSome

/-- The groups of an address, in which four numbers at the end stand for two groups. -/
def groups? (cs : List Char) : Option (List (List Char)) :=
  let parts := Text.cut ':' cs
  let last := parts.getLast?.getD []
  if parts.length < 3 then none
  else if last.contains '.' then
    if isFourPart last then some (parts.dropLast ++ [['0'], ['0']]) else none
  else some parts

/-- Whether groups are those of an address: eight, or fewer with one gap between them.  Only a gap
may stand at an end. -/
def areGroups (parts : List (List Char)) : Bool :=
  if 9 < parts.length then false
  else
    let inner := (parts.drop 1).dropLast
    match inner.count [] with
    | 0 => parts.length = 8 && parts.all isGroup
    | 1 =>
      let before := parts.takeWhile (· ≠ [])
      if before.isEmpty then
        -- the address begins with the gap
        match parts with
        | _ :: [] :: rest =>
          if rest = [[]] then true else rest.length ≤ 7 && rest.all isGroup
        | _ => false
      else
        let rest := parts.drop (before.length + 1)
        let rest := if rest = [[]] then [] else rest
        before.length + rest.length ≤ 7 && before.all isGroup && rest.all isGroup
    | _ => false

/-- An address of sixteen octets, perhaps with the name of a zone behind a percent sign. -/
def isSixteenPart (cs : List Char) : Bool :=
  let address := cs.takeWhile (· ≠ '%')
  let zoneOk := match cs.drop address.length with
    | [] => true
    | _ :: zone => !zone.isEmpty && !zone.contains '%'
  zoneOk && !cs.contains '/' && match groups? address with
    | some parts => areGroups parts
    | none => false

/-- An address of a later version: a letter, the version and any text. -/
def isFutureAddress (cs : List Char) : Bool :=
  match cs with
  | 'v' :: rest =>
    let version := rest.takeWhile fun c => (Text.hexValue? c).isSome
    !version.isEmpty && match rest.drop version.length with
      | '.' :: _ :: _ => true
      | _ => false
  | _ => false

end ServerActions.Network
