import ServerActions.Text.Charset.Escaped
import ServerActions.Text.Charset.Names
import ServerActions.Text.Charset.Shifted
import ServerActions.Text.Charset.Single
import ServerActions.Text.Utf8

/-!
# Character sets

## Main definitions

* `Charset`, `Charset.ofName?` — a character set, and the one with a name.
* `Charset.decode` — the text that octets stand for in a character set.
* `CharsetFault` — why octets stand for no text at all.
-/

namespace ServerActions.Text

open Charset (ByteOrder)

/-- Why octets stand for no text at all. -/
inductive CharsetFault
  /-- The name is that of a coding of octets by octets. -/
  | notText
  /-- The name is that of a coding of texts by texts. -/
  | notOctets
  /-- The character set is undefined. -/
  | undefinedSet
  /-- The character set does not allow that anything is replaced. -/
  | noReplacement
  /-- The mark that tells the order of octets is missing, for units of so many bits. -/
  | noMark (bits : Nat)
  deriving DecidableEq, Repr

/-- The wording of a fault. -/
def CharsetFault.message : CharsetFault → String
  | .notText => ""
  | .notOctets => "descriptor 'translate' for 'str' objects doesn't apply to a 'bytes' object"
  | .undefinedSet => "undefined encoding"
  | .noReplacement => "Unsupported error handling replace"
  | .noMark bits => "UTF-" ++ toString bits ++ " stream does not start with BOM"

/-- A character set. -/
inductive Charset
  | ascii
  | latin1
  /-- The octets that every character takes are many or few; a mark at the head may be passed
  over. -/
  | utf8 (skipsMark : Bool)
  /-- ASCII with runs of shifted units. -/
  | shifted
  /-- Units of two octets, in an order that a mark tells unless it is given. -/
  | units16 (order : Option ByteOrder)
  /-- Units of four octets, in an order that a mark tells unless it is given. -/
  | units32 (order : Option ByteOrder)
  /-- One octet for each character. -/
  | single (set : Array Char)
  /-- Octets of Latin-1 with escapes, of which all count or only those for code points. -/
  | escaped (all : Bool)
  /-- No character set that could be used. -/
  | unusable (fault : CharsetFault)
  deriving Repr

/-- The character sets that are no tables, by their main names. -/
def knownSets : List (String × Charset) :=
  [("ascii", .ascii), ("latin_1", .latin1), ("iso8859_1", .latin1), ("charmap", .latin1),
   ("utf_8", .utf8 false), ("utf_8_sig", .utf8 true), ("utf_7", .shifted), ("utf_16", .units16 none),
   ("utf_16_le", .units16 (some .little)), ("utf_16_be", .units16 (some .big)),
   ("utf_32", .units32 none), ("utf_32_le", .units32 (some .little)),
   ("utf_32_be", .units32 (some .big)), ("unicode_escape", .escaped true),
   ("raw_unicode_escape", .escaped false), ("base64_codec", .unusable .notText),
   ("bz2_codec", .unusable .notText), ("hex_codec", .unusable .notText),
   ("quopri_codec", .unusable .notText), ("uu_codec", .unusable .notText),
   ("zlib_codec", .unusable .notText), ("rot_13", .unusable .notOctets),
   ("undefined", .unusable .undefinedSet), ("idna", .unusable .noReplacement)]

/-- The character set with a name. -/
def Charset.ofName? (name : String) : Option Charset :=
  (setNamed? (plainName name.toList)).bind fun main =>
    (knownSets.lookup main).or ((characters? main).map .single)

/-- The mark that may stand at the head of a text in UTF-8. -/
def mark : List UInt8 := [0xEF, 0xBB, 0xBF]

/-- The octets of a text without the mark at its head, also where that is all there is. -/
def withoutMark (bs : List UInt8) : List UInt8 :=
  if mark.isPrefixOf bs then bs.drop mark.length else if bs.isPrefixOf mark then [] else bs

/-- The characters in units of so many octets whose order a mark tells. -/
def Charset.marked (size : Nat) (decode : ByteOrder → List UInt8 → List Char) (bs : List UInt8) :
    Except CharsetFault (List Char) :=
  match markedOrder? size bs with
  | some o => .ok (decode o (bs.drop size))
  | none => if bs.length < size then .ok (decode .little bs) else .error (.noMark (size * 8))

/-- The text that octets stand for.  Octets that stand for no character are replaced, but two of the
character sets have surrogates. -/
def Charset.decode (set : Charset) (bs : List UInt8) : Except CharsetFault (List Char) :=
  let plain := bs.map fun b => Char.ofNat b.toNat
  match set with
  | .ascii => .ok (plain.map fun c => if c.toNat < 128 then c else replacement)
  | .latin1 => .ok plain
  | .utf8 skipsMark =>
    .ok (spellingOf (Utf8.decodeLossy (bs.length + 1) (if skipsMark then withoutMark bs else bs)))
  | .shifted => .ok (spelling (Charset.utf7 bs))
  | .units16 (some o) => .ok (spellingOf (Charset.utf16 o bs))
  | .units16 none => (marked 2 Charset.utf16 bs).map spellingOf
  | .units32 (some o) => .ok (spellingOf (Charset.utf32 o bs))
  | .units32 none => (marked 4 Charset.utf32 bs).map spellingOf
  | .single table => .ok (bs.map (characterOf table))
  | .escaped true => .ok (spelling (escapes (bs.length + 1) plain))
  | .escaped false => .ok (spelling (rawEscapes (bs.length + 1) true plain))
  | .unusable f => .error f

end ServerActions.Text
