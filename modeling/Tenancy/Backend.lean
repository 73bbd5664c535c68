import Tenancy.Failure
import Tenancy.Json.Value
import Tenancy.Surroundings

/-!
What the partition manager asks of the appliances, of the keeper of ports and of the fabric.
-/

namespace Tenancy

inductive Request
  /-- Whether an object exists, by its name below the collection of its kind. -/
  | probe (host : String) (kind : Kind) (name : String)
  | create (host : String) (kind : Kind) (payload : Json)
  | list (host : String) (kind : Kind) (partition : String)
  | delete (host : String) (resource : Resource)
  | releasePort (port : String)
  /-- Releases what the fabric keeps for a network tag on an appliance. -/
  | releaseTag (host : String) (tag : UInt16)
  deriving Repr

namespace Request

@[reducible] def Answer : Request → Type
  | probe .. => Except DeviceError Bool
  | create .. => Except DeviceError Resource
  | list .. => Except DeviceError (List Resource)
  | delete .. => Except DeviceError Unit
  | releasePort .. => Except CallbackError Unit
  | releaseTag .. => Except CallbackError Unit

end Request

/-- The appliances and the two services beside them. -/
abbrev Backend : Interface := ⟨Request, Request.Answer⟩

/-- A way to work out the manager's requests over another interface. -/
abbrev Client (I : Interface) := (request : Request) → Program I request.Answer

def Client.direct : Client Backend := fun request => .ask request .done

abbrev Action (α : Type) := ExceptT TenantError (Program Backend) α

namespace Action

def perform {I : Interface} {σ α : Type} (action : Action α) (client : Client I)
    (peer : Peer I σ) (surroundings : Surroundings I σ) :
    Except TenantError α × Surroundings I σ :=
  (action.run.via client).run peer 0 surroundings

def ask (request : Request) : Action request.Answer :=
  ExceptT.lift (.ask request .done)

def note (level : Level) (origin : Origin) (message : String) : Action Unit :=
  ExceptT.lift (.note level origin message)

def pause (milliseconds : Nat) : Action Bool :=
  ExceptT.lift (.pause milliseconds .done)

def shutdownRequested : Action Bool :=
  ExceptT.lift (.look .done)

end Action

end Tenancy
