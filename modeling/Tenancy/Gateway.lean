import Tenancy.DeviceApi

/-!
The backend over HTTP: the appliances' API, the plugin that keeps ports, and the controller of the
fabric. The last two are reached at endpoints of their own and without an account. A missing
plugin lets every port go; without a fabric controller no tag can be released.
-/

namespace Tenancy

structure Gateway where
  access : DeviceApi.Access
  portEndpoint : Option String
  fabricEndpoint : Option String
  deriving DecidableEq, Repr

namespace Gateway

def base (endpoint : String) : String :=
  String.ofList (endpoint.toList.reverse.dropWhile (· == '/')).reverse

def portReleased (port : String) :
    Except Web.HttpFailure Web.Response → Except CallbackError Unit
  | .error failure => .error ⟨"port " ++ port ++ ": " ++ failure.message⟩
  | .ok response =>
      if Web.Status.isSuccess response.status then .ok ()
      else .error ⟨"port " ++ port ++ ": plugin returned " ++ Web.Status.text response.status⟩

def releasePort (endpoint : Option String) (port : String) :
    Program Web.Http (Except CallbackError Unit) := do
  match endpoint with
  | none =>
      Program.note .debug .ports ("No plugin configured, keeping port " ++ port)
      return .ok ()
  | some endpoint =>
      let url := base endpoint ++ "/ports"
      Program.note .debug .ports ("Deallocating port " ++ port ++ " via " ++ url)
      return portReleased port (← Web.send .delete url [("name", port)] [] none)

/-- What became of a tag's release. A network that is not found needs none; the flag tells whether
one was removed. -/
def tagReleased (tag : UInt16) :
    Except Web.HttpFailure Web.Response → Except CallbackError Bool
  | .error failure => .error ⟨"tag " ++ toString tag.toNat ++ ": " ++ failure.message⟩
  | .ok response =>
      if response.status = 404 then .ok false
      else if Web.Status.isSuccess response.status then .ok true
      else .error ⟨"tag " ++ toString tag.toNat ++ ": fabric returned " ++
        Web.Status.text response.status ++ ": " ++ response.text⟩

def releaseTag (endpoint : Option String) (host : String) (tag : UInt16) :
    Program Web.Http (Except CallbackError Unit) := do
  let number := toString tag.toNat
  match endpoint with
  | none =>
      return .error (CallbackError.mk
        ("no fabric endpoint configured to release tag " ++ number ++ " on " ++ host))
  | some endpoint =>
      let url := base endpoint ++ "/networks/" ++ number
      Program.note .debug .fabric ("Removing fabric network " ++ number ++ " for " ++ host)
      let released := tagReleased tag (← Web.send .delete url [("device", host)] [] none)
      if let .ok true := released then
        Program.note .info .fabric ("Fabric network " ++ number ++ " removed for " ++ host)
      return released.map fun _ => ()

def client (gateway : Gateway) : Client Web.Http
  | .probe host kind name => DeviceApi.probe gateway.access host kind name
  | .create host kind payload => DeviceApi.create gateway.access host kind payload
  | .list host kind partition => DeviceApi.list gateway.access host kind partition
  | .delete host resource => DeviceApi.delete gateway.access host resource
  | .releasePort port => releasePort gateway.portEndpoint port
  | .releaseTag host tag => releaseTag gateway.fabricEndpoint host tag

end Gateway

end Tenancy
