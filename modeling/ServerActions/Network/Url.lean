import ServerActions.Network.Address
import ServerActions.Network.Label
import ServerActions.Text.Blank
import ServerActions.Text.Case
import ServerActions.Text.Lowercase
import ServerActions.Text.Digit
import ServerActions.Text.Encoding

/-!
# URLs

What sources are URLs, and the plain form in which a URL is asked for.

## Main definitions

* `isWebUrl` — whether a source is a URL.
* `Url`, `Url.ofText`, `Url.text` — the parts of a URL in their plain form, read and written.
* `UrlFault` — why a text is no URL.
-/

namespace ServerActions.Network

/-! ### Sources that are URLs -/

/-- The characters that the name of a scheme may have. -/
def isSchemeChar (c : Char) : Bool :=
  c.isAlphanum || c = '+' || c = '-' || c = '.'

/-- The characters that stand for several ones in which there is a delimiter of URLs. -/
def delimiterLike : List Nat :=
  [0x2047, 0x2048, 0x2049, 0x2100, 0x2101, 0x2105, 0x2106, 0x2A74, 0xFE13, 0xFE16, 0xFE55, 0xFE56,
   0xFE5F, 0xFE6B, 0xFF03, 0xFF0F, 0xFF1A, 0xFF1F, 0xFF20]

/-- The scheme at the head of a text in lower case, and the text after it. -/
def schemeOf (cs : List Char) : String × List Char :=
  let name := cs.takeWhile isSchemeChar
  match name, cs.drop name.length with
  | c :: _, ':' :: rest =>
    if c.isAlpha then (String.ofList (Text.lowerAscii name), rest) else ("", cs)
  | _, _ => ("", cs)

/-- The text behind the last at sign, or the whole text where there is none. -/
def behindUser (authority : List Char) : List Char :=
  (authority.reverse.takeWhile (· ≠ '@')).reverse

/-- The host that an authority names: what stands in brackets, or what stands before a port.  In
front of brackets nothing may stand, and after them only a port. -/
def bracketedHost? (authority : List Char) : Option (List Char) :=
  let place := behindUser authority
  if place.contains '[' then
    let inside := ((place.dropWhile (· ≠ '[')).drop 1).takeWhile (· ≠ ']')
    let after := ((place.dropWhile (· ≠ '[')).drop (inside.length + 2)).head?
    if place.head? = some '[' && (after.isNone || after = some ':') then some inside else none
  else some (place.takeWhile (· ≠ ':'))

/-- Whether the brackets of an authority, if it has some, hold an address. -/
def hasGoodBrackets (authority : List Char) : Bool :=
  if authority.contains '[' && authority.contains ']' then
    match bracketedHost? authority with
    | some host => if host.head? = some 'v' then isFutureAddress host else isSixteenPart host
    | none => false
  else !authority.contains '[' && !authority.contains ']'

/-- Whether the authority after two slashes is possible. -/
def hasGoodAuthority (cs : List Char) : Bool :=
  match cs with
  | '/' :: '/' :: rest =>
    let authority := rest.takeWhile fun c => c ≠ '/' && c ≠ '?' && c ≠ '#'
    hasGoodBrackets authority && !authority.any fun c => delimiterLike.contains c.toNat
  | _ => true

/-- Whether a source is a URL: it has one of the two schemes of the web.  Control characters and
spaces in front of it do not count, nor do tabs and ends of lines. -/
def isWebUrl (source : String) : Bool :=
  let cs := (source.toList.dropWhile fun c => c.toNat ≤ 32).filter fun c =>
    c ≠ '\t' && c ≠ '\r' && c ≠ '\n'
  let (scheme, rest) := schemeOf cs
  (scheme = "http" || scheme = "https") && hasGoodAuthority rest

/-! ### Characters -/

/-- The characters that stand for themselves everywhere. -/
def isUnreserved (c : Char) : Bool :=
  c.isAlphanum || c = '-' || c = '.' || c = '_' || c = '~'

/-- A printable ASCII character other than those given. -/
def isPrintableBut (others : String) (c : Char) : Bool :=
  0x20 ≤ c.toNat && c.toNat < 0x7F && !others.toList.contains c

/-- The characters that stand for themselves in a fragment. -/
def fragmentChar : Char → Bool := isPrintableBut " \"<>\x60"

/-- The characters that stand for themselves in a query. -/
def queryChar : Char → Bool := isPrintableBut " \"#<>"

/-- The characters that stand for themselves in a path. -/
def pathChar : Char → Bool := isPrintableBut " \"#<>?\x60\x7b\x7d"

/-- The characters that stand for themselves in the name and the password of a user. -/
def userChar : Char → Bool := isPrintableBut " \"#<>?\x60\x7b\x7d/;=@[\\]^|"

/-- The characters that stand for themselves in the name of a host. -/
def hostChar (c : Char) : Bool :=
  isUnreserved c || "!$&'()*+,;=\"\x60\x7b\x7d%|\\".toList.contains c

/-! ### Parts -/

/-- Why a text is no URL. -/
inductive UrlFault
  | tooLong
  | controlCharacter (c : Char) (index : Nat)
  | badFourPart (host : String)
  | badSixteenPart (host : String)
  | badHostName (host : String)
  | badPort (text : String)
  | doubleSlash
  | colonFirst
  /-- A code point has no octets. -/
  | encoding (fault : Text.EncodingFault)
  deriving DecidableEq, Repr

/-- A text in quotes. -/
def inQuotes (s : String) : String := String.ofList (Text.quoted s.toList)

/-- The wording of a fault. -/
def UrlFault.message : UrlFault → String
  | .tooLong => "URL too long"
  | .controlCharacter c index =>
    "Invalid non-printable ASCII character in URL, " ++ inQuotes (String.singleton c)
      ++ " at position " ++ toString index ++ "."
  | .badFourPart host => "Invalid IPv4 address: " ++ inQuotes host
  | .badSixteenPart host => "Invalid IPv6 address: " ++ inQuotes host
  | .badHostName host => "Invalid IDNA hostname: " ++ inQuotes host
  | .badPort text => "Invalid port: " ++ inQuotes text
  | .doubleSlash => "Relative URLs cannot have a path starting with '//'"
  | .colonFirst => "Relative URLs cannot have a path starting with ':'"
  | .encoding f => f.message

/-- A character by the hexadecimal digits of its octets. -/
def escaped (c : Char) : List Char :=
  (String.singleton c).toUTF8.toList.flatMap fun b =>
    '%' :: (Text.hex 2 b.toNat).map Char.toUpper

/-- A text in which only characters of a kind stand for themselves.  Each of the others is encoded
on its own. -/
def percentEncoded (keep : Char → Bool) (cs : List Char) : Except UrlFault (List Char) :=
  let ns := Text.points cs
  match ns.find? Text.isSurrogate with
  | some n => .error (.encoding ⟨"utf-8", n, 0, 0, "surrogates not allowed"⟩)
  | none => .ok ((ns.map Char.ofNat).flatMap fun c => if keep c then [c] else escaped c)

/-- A URL has at most this many characters. -/
def maxUrlSize : Nat := 65536

/-- The parts of a URL in their plain form. -/
structure Url where
  scheme : String
  user : String
  host : String
  port : Option Int
  path : String
  query : Option String
  fragment : Option String
  deriving DecidableEq, Repr

/-- Whether a text is made of some runs of digits with one character between each and the next. -/
def hasDigitRuns : Nat → Bool → List Char → Bool
  | runs, started, [] => runs = 0 && started
  | 0, _, cs => cs.all Char.isDigit
  | runs + 1, started, c :: cs =>
    (c.isDigit && hasDigitRuns (runs + 1) true cs) || (started && hasDigitRuns runs false cs)

/-- A host in its plain form. -/
def plainHost (host : List Char) : Except UrlFault (List Char) :=
  let text := String.ofList host
  if host.isEmpty then .ok []
  else if hasDigitRuns 3 false host then
    if isFourPart host then .ok host else .error (.badFourPart text)
  else if host.head? = some '[' && host.getLast? = some ']' then
    let inside := (host.drop 1).dropLast
    if isSixteenPart inside then .ok inside else .error (.badSixteenPart text)
  else if host.all fun c => c.toNat < 128 then
    percentEncoded hostChar (Text.lowerAscii host)
  else match asciiHost? (Text.lower host) with
    | some h => .ok h
    | none => .error (.badHostName text)

/-- The ports that need not be written. -/
def defaultPorts : List (String × Int) :=
  [("ftp", 21), ("http", 80), ("https", 443), ("ws", 80), ("wss", 443)]

/-- The digits of a number in which single underscores stand between digits. -/
def groupedNumber? : Bool → Nat → List Char → Option Nat
  | afterDigit, n, [] => if afterDigit then some n else none
  | afterDigit, n, c :: cs =>
    match Text.decimal? c with
    | some d => groupedNumber? true (n * 10 + d) cs
    | none => if c = '_' && afterDigit then groupedNumber? false n cs else none

/-- The number of a port, which may have a sign and blanks around it. -/
def portNumber? (text : List Char) : Option Int :=
  match Text.trim text with
  | '-' :: ds => (groupedNumber? false 0 ds).map fun n => -(n : Int)
  | '+' :: ds => (groupedNumber? false 0 ds).map Int.ofNat
  | ds => (groupedNumber? false 0 ds).map Int.ofNat

/-- A port in its plain form.  The port that goes with a scheme is left out if the scheme is
written in lower case. -/
def plainPort (scheme : String) (text : List Char) : Except UrlFault (Option Int) :=
  if text.isEmpty then .ok none
  else match portNumber? text with
    | none => .error (.badPort (String.ofList text))
    | some n => .ok (if defaultPorts.lookup scheme = some n then none else some n)

/-- A path without the steps that stay in place and those that lead back. -/
def plainPath (cs : List Char) : List Char :=
  let steps := Text.cut '/' cs
  let kept := steps.foldl (fun out step =>
    if step = ['.'] then out
    else if step = ['.', '.'] then (if out.isEmpty || out = [[]] then out else out.dropLast)
    else out ++ [step]) []
  if steps.any fun s => s = ['.'] || s = ['.', '.'] then Text.joinWith '/' kept else cs

/-- The text up to the last of some characters, and the text after it. -/
def splitLast (x : Char) (cs : List Char) : Option (List Char × List Char) :=
  if cs.contains x then
    let after := (cs.reverse.takeWhile (· ≠ x)).reverse
    some (cs.take (cs.length - after.length - 1), after)
  else none

/-- The host at the head of a text, and what is behind it. -/
def hostOf (cs : List Char) : List Char × List Char :=
  let bracketed :=
    if cs.head? = some '[' then (splitLast ']' cs).map fun r => r.1 ++ [']'] else none
  let host := bracketed.getD (cs.takeWhile fun c => c ≠ ':' && c ≠ '@')
  (host, cs.drop host.length)

/-- The scheme at the head of a text as it is written, and the text after it. -/
def writtenScheme (cs : List Char) : List Char × List Char :=
  let name := cs.takeWhile isSchemeChar
  match name, cs.drop name.length with
  | [], ':' :: rest => ([], rest)
  | c :: _, ':' :: rest => if c.isAlpha then (name, rest) else ([], cs)
  | _, _ => ([], cs)

/-- The authority at the head of a text, and the text after it. -/
def authorityOf (cs : List Char) : List Char × List Char :=
  match cs with
  | '/' :: '/' :: rest =>
    let authority := rest.takeWhile fun c => c ≠ '/' && c ≠ '?' && c ≠ '#'
    (authority, rest.drop authority.length)
  | _ => ([], cs)

/-- A part that begins with a character, and the text after it up to `stop`. -/
def partAfter (x : Char) (stop : Char → Bool) (cs : List Char) : Option (List Char) × List Char :=
  match cs with
  | c :: rest =>
    if c = x then
      let part := rest.takeWhile fun c => !stop c
      (some part, rest.drop part.length)
    else (none, cs)
  | [] => (none, [])

/-- The control character of ASCII at which code points fail to be a URL, with its index. -/
def controlAt? (ns : List Nat) : Option (Char × Nat) :=
  let before := ns.takeWhile fun n => !(n < 32 || n = 127)
  (ns[before.length]?).map fun n => (Char.ofNat n, before.length)

/-- The parts of a text that is a URL. -/
def Url.ofText (s : String) : Except UrlFault Url := do
  let cs := s.toList
  if maxUrlSize < (Text.points cs).length then throw .tooLong
  if let some (c, i) := controlAt? (Text.points cs) then throw (.controlCharacter c i)
  let (scheme, rest) := writtenScheme cs
  let (authority, rest) := authorityOf rest
  let path := rest.takeWhile fun c => c ≠ '?' && c ≠ '#'
  let (query, rest) := partAfter '?' (· == '#') (rest.drop path.length)
  let (fragment, _) := partAfter '#' (fun _ => false) rest
  let (user, place) := (splitLast '@' authority).getD ([], authority)
  let (host, port) := hostOf place
  let port := if port.head? = some ':' then port.drop 1 else port
  let user ← percentEncoded userChar user
  let host ← plainHost host
  let port ← plainPort (String.ofList scheme) port
  let isPlaced := !user.isEmpty || !host.isEmpty || port.isSome
  if scheme.isEmpty && !isPlaced then
    if ['/', '/'].isPrefixOf path then throw .doubleSlash
    if path.head? = some ':' then throw .colonFirst
  let path := if scheme.isEmpty && !isPlaced then path else plainPath path
  let path ← percentEncoded pathChar path
  let query ← query.mapM (percentEncoded queryChar)
  let fragment ← fragment.mapM (percentEncoded fragmentChar)
  return {
    scheme := String.ofList (Text.lowerAscii scheme)
    user := String.ofList user
    host := String.ofList host
    port
    path := String.ofList path
    query := query.map String.ofList
    fragment := fragment.map String.ofList }

/-- The user, the host and the port. -/
def Url.authority (u : Url) : String :=
  (if u.user.isEmpty then "" else u.user ++ "@")
    ++ (if u.host.toList.contains ':' then "[" ++ u.host ++ "]" else u.host)
    ++ (u.port.map fun p => ":" ++ toString p).getD ""

/-- The path and the query. -/
def Url.target (u : Url) : String :=
  (if u.path.isEmpty then "/" else u.path) ++ (u.query.map ("?" ++ ·)).getD ""

/-- A URL as it is written. -/
def Url.text (u : Url) : String :=
  (if u.scheme.isEmpty then "" else u.scheme ++ ":")
    ++ (if u.authority.isEmpty then "" else "//" ++ u.authority)
    ++ u.path ++ (u.query.map ("?" ++ ·)).getD "" ++ (u.fragment.map ("#" ++ ·)).getD ""

/-- Whether a URL leads to a host. -/
def Url.isAbsolute (u : Url) : Bool :=
  !u.scheme.isEmpty && !u.host.isEmpty

/-- The text under which a URL is asked for.  One that leads to no host is only a path. -/
def Url.asked (u : Url) : String :=
  if u.isAbsolute then u.text
  else "/" ++ String.ofList (u.target.toList.dropWhile (· = '/'))

end ServerActions.Network
