import Tenancy.Json.Node
import Tenancy.Surroundings
import Tenancy.Text.Utf8
import Tenancy.Web.Status
import Tenancy.Web.Url

/-!
HTTP as an interface: requests with their responses, and what becomes of a request whose URL cannot
be used or that gets no response.
-/

namespace Tenancy.Web

inductive Method
  | get
  | post
  | delete
  deriving DecidableEq, Repr

def Method.text : Method → String
  | get => "GET"
  | post => "POST"
  | delete => "DELETE"

structure HttpRequest where
  method : Method
  url : Url
  credentials : List (String × String)
  body : Option Json

/-- A response whose body may have broken off. -/
structure Response where
  status : Nat
  body : List UInt8
  complete : Bool
  deriving DecidableEq, Repr

/-- The answer to a request is its response, if one comes. -/
abbrev Http : Interface := ⟨HttpRequest, fun _ => Option Response⟩

namespace Response

/-- The body as text; one that broke off is taken for empty. -/
def text (response : Response) : String :=
  if response.complete then Text.Utf8.decode response.body else ""

/-- What the body says as JSON; nothing if it broke off. -/
def decode? {τ : Type} (decode : Json.Node → Option τ) (response : Response) : Option τ :=
  if response.complete then (Json.Node.read? response.body).bind decode else none

end Response

inductive HttpFailure
  | unusableUrl
  /-- A URL that is none of HTTP. -/
  | unsupported (url : Url)
  | noResponse (url : Url)

namespace HttpFailure

def message : HttpFailure → String
  | unusableUrl => "builder error"
  | unsupported url => "builder error for url (" ++ url.write ++ ")"
  | noResponse url => "error sending request for url (" ++ url.write ++ ")"

end HttpFailure

def speaks (url : Url) : Bool :=
  (url.scheme = "http" || url.scheme = "https") &&
    !url.host.any (·.any "\"\x60\x7b\x7d".toList.contains) && url.write.utf8ByteSize ≤ 65534

/-- The URL that a text with added query pairs means, with the user and the password taken out. No
failure tells them. -/
def prepare (text : String) (pairs : List (String × String)) :
    Except HttpFailure (Url × Option (List Char × List Char)) :=
  match Url.read? text with
  | none => .error .unusableUrl
  | some url =>
      if url.host.all List.isEmpty then .error (.unsupported url)
      else
        let full := pairs.foldl (fun url pair => url.withPair pair.1 pair.2) { url with user := none }
        if speaks full then .ok (full, url.user) else .error (.unsupported full)

/-- Sends a request. User and password that stand in the URL go before those given. -/
def send (method : Method) (text : String) (pairs credentials : List (String × String))
    (body : Option Json) : Program Http (Except HttpFailure Response) :=
  match prepare text pairs with
  | .error failure => .done (.error failure)
  | .ok (url, user) =>
      let own := user.toList.map fun (name, password) =>
        (Text.Utf8.decode (Text.Percent.decode name),
          Text.Utf8.decode (Text.Percent.decode password))
      .ask ⟨method, url, own ++ credentials, body⟩ fun
        | none => .done (.error (.noResponse url))
        | some response => .done (.ok response)

end Tenancy.Web
