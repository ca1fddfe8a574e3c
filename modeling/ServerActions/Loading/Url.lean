import ServerActions.Loading.Check
import ServerActions.Loading.Format

/-!
# Loading descriptions over the network

## Main definitions

* `Fetch` — how a URL is asked for.
* `responseFormat` — the form of a description that came from a URL.
* `fromUrl` — the description at a URL.
-/

namespace ServerActions.Loading

open Description (Document)
open Network (Response Url)

/-- How a URL is asked for. -/
abbrev Fetch := String → Except Network.Fault Response

/-- The form of a description from a URL: JSON unless the type of its content or the end of the
URL says that it is YAML. -/
def responseFormat (url : String) (r : Response) : Format :=
  let isNamed := Text.occursIn "yaml".toList (r.contentType.getD "").toList
  if isNamed || yamlExtensions.any fun e => e.toList.isSuffixOf url.toList then .yaml else .json

/-- The value that the response for a URL denotes. -/
def responseValue (url : String) (asked : Url) (r : Response) : Except Cause Value :=
  if let some f := r.headerFault? then .error (.noText f)
  else if !asked.isAbsolute then .error (.noHost asked.asked)
  else if !Network.isSuccess r.status then .error (.status r.status asked.asked)
  else match r.text with
    | .ok cs => (responseFormat url r).read cs
    | .error f => .error (.noText f)

/-- The cause that keeps a text from being asked for. -/
def refusal : Network.UrlFault → Cause
  | .encoding f => .noText (.header f)
  | f => .badUrl f

/-- The value at a URL. -/
def urlValue (fetch : Fetch) (url : String) : Except Cause Value :=
  match Url.ofText url with
  | .error f => .error (refusal f)
  | .ok u =>
    match fetch u.asked with
    | .error f => .error (.network f)
    | .ok r => responseValue url u r

/-- The description at a URL. -/
def fromUrl (fetch : Fetch) (url : String) : Except Failure Document :=
  match urlValue fetch url with
  | .ok v => check url v
  | .error c => .error (.load url c)

end ServerActions.Loading
