import ServerActions.Network.ContentType
import ServerActions.Text.Encoding

/-!
# Responses

What comes back over the network for a URL, and what it says.

## Main definitions

* `Network.Fault` — a failure to get a response.
* `Response`, `Response.text` — a response, and the text that its octets encode.
* `TextFault` — why a response has no text.
* `statusMessage` — the wording of a status that is no success.
-/

namespace ServerActions.Network

/-- A failure to get a response, by its name and its text. -/
structure Fault where
  name : String
  text : String
  deriving DecidableEq, Repr

/-- There is no network. -/
def Fault.offline : Fault := ⟨"ConnectError", "[Errno -2] Name or service not known"⟩

/-- What comes back for a URL. -/
structure Response where
  status : Nat
  contentType : Option String
  content : ByteArray

/-! ### Status -/

/-- The phrases that go with numbers of a status. -/
def phrases : List (Nat × String) :=
  [(100, "Continue"), (101, "Switching Protocols"), (102, "Processing"), (103, "Early Hints"),
   (200, "OK"), (201, "Created"), (202, "Accepted"), (203, "Non-Authoritative Information"),
   (204, "No Content"), (205, "Reset Content"), (206, "Partial Content"), (207, "Multi-Status"),
   (208, "Already Reported"), (226, "IM Used"), (300, "Multiple Choices"),
   (301, "Moved Permanently"), (302, "Found"), (303, "See Other"), (304, "Not Modified"),
   (305, "Use Proxy"), (307, "Temporary Redirect"), (308, "Permanent Redirect"),
   (400, "Bad Request"), (401, "Unauthorized"), (402, "Payment Required"), (403, "Forbidden"),
   (404, "Not Found"), (405, "Method Not Allowed"), (406, "Not Acceptable"),
   (407, "Proxy Authentication Required"), (408, "Request Timeout"), (409, "Conflict"),
   (410, "Gone"), (411, "Length Required"), (412, "Precondition Failed"),
   (413, "Request Entity Too Large"), (414, "Request-URI Too Long"),
   (415, "Unsupported Media Type"), (416, "Requested Range Not Satisfiable"),
   (417, "Expectation Failed"), (418, "I'm a teapot"), (421, "Misdirected Request"),
   (422, "Unprocessable Entity"), (423, "Locked"), (424, "Failed Dependency"), (425, "Too Early"),
   (426, "Upgrade Required"), (428, "Precondition Required"), (429, "Too Many Requests"),
   (431, "Request Header Fields Too Large"), (451, "Unavailable For Legal Reasons"),
   (500, "Internal Server Error"), (501, "Not Implemented"), (502, "Bad Gateway"),
   (503, "Service Unavailable"), (504, "Gateway Timeout"), (505, "HTTP Version Not Supported"),
   (506, "Variant Also Negotiates"), (507, "Insufficient Storage"), (508, "Loop Detected"),
   (510, "Not Extended"), (511, "Network Authentication Required")]

/-- The kind of a status that is no success. -/
def statusKind (code : Nat) : String :=
  match code / 100 with
  | 1 => "Informational response"
  | 3 => "Redirect response"
  | 4 => "Client error"
  | 5 => "Server error"
  | _ => "Invalid status code"

/-- Whether a status is a success. -/
def isSuccess (code : Nat) : Bool := code / 100 = 2

/-- The wording of a status that is no success. -/
def statusMessage (code : Nat) (url : String) : String :=
  statusKind code ++ " '" ++ toString code ++ " " ++ (phrases.lookup code).getD "" ++ "' for url '"
    ++ url ++ "'\nFor more information check: "
    ++ "https://developer.mozilla.org/en-US/docs/Web/HTTP/Status/" ++ toString code

/-! ### Text -/

/-- Why there is no text, or none that octets stand for. -/
inductive TextFault
  /-- Code points have no octets: of the type of a content, which is in ASCII, or of a text that is
  written. -/
  | header (fault : Text.EncodingFault)
  /-- The character set does not serve. -/
  | charset (fault : Text.CharsetFault)
  deriving DecidableEq, Repr

/-- The wording of a fault. -/
def TextFault.message : TextFault → String
  | .header f => f.message
  | .charset f => f.message

/-- What is wrong with the type of the content that a response names. -/
def Response.headerFault? (r : Response) : Option TextFault :=
  (r.contentType.bind fun type => Text.EncodingFault.inAscii? type.toList).map .header

/-- The character set that a response names, or UTF-8 if it names none that is known. -/
def Response.charset (r : Response) : Text.Charset :=
  ((r.contentType.bind charsetName?).bind Text.Charset.ofName?).getD (.utf8 false)

/-- The text of a response. -/
def Response.text (r : Response) : Except TextFault (List Char) :=
  if r.content.isEmpty then .ok []
  else (r.charset.decode r.content.toList).mapError .charset

end ServerActions.Network
