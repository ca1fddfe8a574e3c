import ServerActions.Text.Quoted

/-!
# Encoding texts

A text as octets, and the first of its code points that have none when it cannot be written so.

## Main definitions

* `EncodingFault` — code points without octets, and where they are.
* `EncodingFault.inAscii?`, `EncodingFault.inUtf8?` — what is wrong with a text in an encoding.
* `utf8` — the octets of a text in UTF-8.
* `EncodingFault.inName?`, `nameSize` — what is wrong with a text as the name of a file, and how
  many octets it has as such.
-/

namespace ServerActions.Text

/-- Code points next to one another that have no octets in an encoding: the first of them, and the
positions of the first and of the last. -/
structure EncodingFault where
  encoding : String
  point : Nat
  first : Nat
  last : Nat
  reason : String
  deriving DecidableEq, Repr

/-- The wording of a fault. -/
def EncodingFault.message (f : EncodingFault) : String :=
  "'" ++ f.encoding ++ "' codec can't encode character"
    ++ (if f.first = f.last then
        " '" ++ String.ofList (pointEscape f.point) ++ "' in position " ++ toString f.first
      else "s in position " ++ toString f.first ++ "-" ++ toString f.last)
    ++ ": " ++ f.reason

/-- The first code point without octets, and those of its kind right after it. -/
def EncodingFault.find? (encoding reason : String) (fails isAlike : Nat → Bool) (ns : List Nat) :
    Option EncodingFault :=
  let before := ns.takeWhile (!fails ·)
  let run := (ns.drop before.length).takeWhile isAlike
  run.head?.map fun n => ⟨encoding, n, before.length, before.length + run.length - 1, reason⟩

/-- What is wrong with a text in ASCII. -/
def EncodingFault.inAscii? (cs : List Char) : Option EncodingFault :=
  find? "ascii" "ordinal not in range(128)" (128 ≤ ·) (128 ≤ ·) (points cs)

/-- What is wrong with a text in UTF-8: surrogates have no octets. -/
def EncodingFault.inUtf8? (cs : List Char) : Option EncodingFault :=
  find? "utf-8" "surrogates not allowed" isSurrogate isSurrogate (points cs)

/-- The octets of a text in UTF-8. -/
def utf8 (s : String) : ByteArray :=
  (String.ofList ((points s.toList).map Char.ofNat)).toUTF8

/-! ### Names of files -/

/-- Whether a code point stands for an octet that is no part of a character. -/
def isLoneOctet (n : Nat) : Bool := 0xDC80 ≤ n && n ≤ 0xDCFF

/-- What is wrong with a text as the name of a file, which is any octets. -/
def EncodingFault.inName? (cs : List Char) : Option EncodingFault :=
  find? "utf-8" "surrogates not allowed" (fun n => isSurrogate n && !isLoneOctet n) isSurrogate
    (points cs)

/-- The count of the octets of a text as the name of a file. -/
def nameSize (s : String) : Nat :=
  (points s.toList).foldl
    (fun size n => size + if isLoneOctet n then 1 else (Char.ofNat n).utf8Size) 0

end ServerActions.Text
