import Tenancy.Backend
import Tenancy.Fault
import Tenancy.Stored
import Tenancy.Web.Http

/-!
The appliances' configuration API over HTTP. Each kind of object has a collection; an object is
addressed below it by its partition and name, a folder by its name alone. The class of a failure
is read off the status.
-/

namespace Tenancy.DeviceApi

open Json (Node Layout)
open Web (HttpFailure Method Response)

structure Access where
  scheme : String
  username : String
  password : String
  deriving DecidableEq, Repr

def collection : Kind → String
  | .folder => "sys/folder"
  | .virtualAddress => "ltm/virtual-address"
  | .node => "ltm/node"
  | .snat => "ltm/snat"
  | .snatPool => "ltm/snatpool"
  | .snatTranslation => "ltm/snat-translation"
  | .selfIp => "net/self"
  | .vlan => "net/vlan"
  | .routeDomain => "net/route-domain"

def collectionUrl (access : Access) (host : String) (kind : Kind) : String :=
  access.scheme ++ "://" ++ host ++ "/mgmt/tm/" ++ collection kind

def objectUrl (access : Access) (host : String) (resource : Resource) : String :=
  let path :=
    if resource.kind = .folder then resource.name else resource.partition ++ "~" ++ resource.name
  collectionUrl access host resource.kind ++ "/~" ++ path

structure Item where
  name : String
  partition : Option String
  tag : Option UInt16
  deriving DecidableEq, Repr

namespace Item

def layout : Layout := ⟨[⟨"name", false⟩, ⟨"partition", true⟩, ⟨"tag", true⟩], false⟩

def ofNode? (node : Node) : Option Item := do
  match ← layout.values? node with
  | [some name, partition, tag] =>
      return ⟨← name.text?, ← optionalField? Node.text? partition,
        ← optionalField? tagOfNode? tag⟩
  | _ => none

/-- The object of a kind that an item shows; `partition` is where it lies if it does not say so. -/
def resource (item : Item) (kind : Kind) (partition : String) : Resource :=
  ⟨kind, item.name, item.partition.getD partition, item.tag⟩

end Item

/-- The items of a listing, none if it has no such member. -/
def itemsOfNode? (node : Node) : Option (List Item) := do
  match ← Layout.values? ⟨[⟨"items", true⟩], false⟩ node with
  | [none] => return []
  | [some items] => (← items.items?).mapM Item.ofNode?
  | _ => none

/-- The class of a response; one of success stays as it is. -/
def classify (host : String) (kind : Kind) (name : String) (response : Response) :
    Except DeviceError Response :=
  if Web.Status.isSuccess response.status then .ok response
  else if response.status = 401 then .error (.authExpired host response.text)
  else if response.status = 404 then .error (.notFound host kind name)
  else .error (.other host
    (kind.text ++ " " ++ Web.Status.text response.status ++ ": " ++ response.text))

def settle (host : String) (kind : Kind) (name : String) :
    Except HttpFailure Response → Except DeviceError Response
  | .error failure => .error (.other host failure.message)
  | .ok response => classify host kind name response

/-- What the body of a response says, or the failure that it says nothing of use. -/
def decode {τ : Type} (host : String) (ofNode? : Node → Option τ) (response : Response) :
    Except DeviceError τ :=
  match response.decode? ofNode? with
  | some value => .ok value
  | none => .error (.other host "invalid response body: error decoding response body")

def probed : Except DeviceError Response → Except DeviceError Bool
  | .ok _ => .ok true
  | .error (.notFound ..) => .ok false
  | .error error => .error error

/-- A new object lies in the partition of its own name if the appliance names none. -/
def created (host : String) (kind : Kind) (response : Response) : Except DeviceError Resource := do
  let item ← decode host Item.ofNode? response
  return item.resource kind item.name

def listed (host : String) (kind : Kind) (partition : String) (response : Response) :
    Except DeviceError (List Resource) := do
  let items ← decode host itemsOfNode? response
  return items.map (·.resource kind partition)

def send (access : Access) (host : String) (kind : Kind) (name : String) (method : Method)
    (url : String) (pairs : List (String × String)) (body : Option Json) :
    Program Web.Http (Except DeviceError Response) := do
  let result ← Web.send method url pairs [(access.username, access.password)] body
  return settle host kind name result

def probe (access : Access) (host : String) (kind : Kind) (name : String) :
    Program Web.Http (Except DeviceError Bool) := do
  let url := collectionUrl access host kind ++ "/~" ++ name
  Program.note .debug .device ("GET " ++ url)
  return probed (← send access host kind name .get url [] none)

def create (access : Access) (host : String) (kind : Kind) (payload : Json) :
    Program Web.Http (Except DeviceError Resource) := do
  let name := Request.payloadName payload
  let url := collectionUrl access host kind
  Program.note .debug .device ("POST " ++ url ++ " (" ++ name ++ ")")
  let response ← send access host kind name .post url [] (some payload)
  return response.bind (created host kind)

def list (access : Access) (host : String) (kind : Kind) (partition : String) :
    Program Web.Http (Except DeviceError (List Resource)) := do
  let url := collectionUrl access host kind
  let wanted := "partition eq " ++ partition
  Program.note .debug .device ("GET " ++ url ++ " (" ++ wanted ++ ")")
  let response ← send access host kind partition .get url [("$filter", wanted)] none
  return response.bind (listed host kind partition)

def delete (access : Access) (host : String) (resource : Resource) :
    Program Web.Http (Except DeviceError Unit) := do
  let url := objectUrl access host resource
  Program.note .debug .device ("DELETE " ++ url)
  let response ← send access host resource.kind resource.name .delete url [] none
  return response.map fun _ => ()

end Tenancy.DeviceApi
