import Tenancy.Text.Base64
import Tenancy.Web.Http

/-!
A peer at the other end of all connections that answers from a script, whatever host a request is
for. It remembers what it saw.
-/

namespace Tenancy.Web

structure Reply where
  /-- No response if the connection is closed without one. -/
  response : Option Response
  /-- Whether shutdown is requested while the request is under way. -/
  interrupt : Bool
  deriving DecidableEq, Repr

namespace Reply

/-- A response to a request that needs no body has none. -/
def ofResponse (status : Nat) (body : List UInt8) (complete : Bool) : Response :=
  if status = 204 || status = 304 then ⟨status, [], true⟩ else ⟨status, body, complete⟩

def exhausted : Reply :=
  ⟨some ⟨500, "script exhausted".toUTF8.toList, true⟩, false⟩

end Reply

/-- A request as the peer sees it. Of a secured connection it sees only that one is asked for. -/
inductive Seen
  | plain (request : HttpRequest)
  | tunnel (authority : String)

def basicAuthorization (account : String × String) : String :=
  "Basic " ++ String.ofList
    (Text.Base64.encode (account.1 ++ ":" ++ account.2).toUTF8.toList)

structure Script where
  replies : List Reply
  /-- The requests that came, latest first. -/
  seen : List Seen

namespace Script

/-- The connection that a request asks for if it is secured. -/
def tunnelOf (url : Url) : String :=
  String.ofList (url.host.getD []) ++ ":" ++ toString (url.port.getD 443)

def seenOf (request : HttpRequest) : Seen :=
  if request.url.scheme = "https" then .tunnel (tunnelOf request.url) else .plain request

def next (script : Script) : Reply :=
  script.replies.head?.getD .exhausted

def respond (request : HttpRequest) (script : Script) : Option Response × Script :=
  let response := if request.url.scheme = "https" then none else script.next.response
  (response, ⟨script.replies.drop 1, seenOf request :: script.seen⟩)

/-- The script as a peer, with what is logged when it interrupts. -/
def peer (notice : List Event) : Peer Http Script where
  latency := fun _ _ => 0
  raises := fun _ script _ => script.next.interrupt
  respond := respond
  notice := notice

end Script

/-- A network in which no request reaches anybody. -/
def unreachable : Peer Http Unit where
  latency := fun _ _ => 0
  raises := fun _ _ _ => false
  respond := fun _ state => (none, state)
  notice := []

end Tenancy.Web
