import Tenancy.Backend

/-!
Faults that requests meet. A fault names the requests that it befalls, lets some of them pass
first, and befalls a limited number of them.
-/

namespace Tenancy

inductive Operation
  | probe
  | create
  | list
  | delete
  | releasePort
  | releaseTag
  deriving DecidableEq, Repr

namespace Request

def operation : Request → Operation
  | probe .. => .probe
  | create .. => .create
  | list .. => .list
  | delete .. => .delete
  | releasePort .. => .releasePort
  | releaseTag .. => .releaseTag

def host? : Request → Option String
  | probe host .. => some host
  | create host .. => some host
  | list host .. => some host
  | delete host _ => some host
  | releasePort _ => none
  | releaseTag host _ => some host

def kind? : Request → Option Kind
  | probe _ kind _ => some kind
  | create _ kind _ => some kind
  | list _ kind _ => some kind
  | delete _ resource => some resource.kind
  | releasePort _ | releaseTag .. => none

def payloadName (payload : Json) : String :=
  ((payload.member? "name").bind Json.text?).getD ""

def name? : Request → Option String
  | probe _ _ name => some name
  | create _ _ payload => some (payloadName payload)
  | list _ _ partition => some partition
  | delete _ resource => some resource.name
  | releasePort port => some port
  | releaseTag .. => none

def tag? : Request → Option UInt16
  | releaseTag _ tag => some tag
  | _ => none

end Request

inductive FaultClass
  | authExpired
  | notFound
  | other
  deriving DecidableEq, Repr

/-- What a befallen request answers. Of an appliance's error, what is not given here is taken from
the request. -/
structure FaultAnswer where
  sort : FaultClass
  message : String
  host : Option String
  kind : Option Kind
  name : Option String
  deriving DecidableEq, Repr

namespace FaultAnswer

def deviceError (answer : FaultAnswer) (host : String) (kind : Kind) (name : String) :
    DeviceError :=
  match answer.sort with
  | .authExpired => .authExpired (answer.host.getD host) answer.message
  | .notFound =>
      .notFound (answer.host.getD host) (answer.kind.getD kind) (answer.name.getD name)
  | .other => .other (answer.host.getD host) answer.message

def callbackError (answer : FaultAnswer) : CallbackError := ⟨answer.message⟩

end FaultAnswer

structure Fault where
  operation : Operation
  host : Option String
  kind : Option Kind
  name : Option String
  tag : Option UInt16
  /-- Befallen requests that still pass. -/
  skip : Nat
  /-- Requests that still fail; without a number, all. -/
  times : Option Nat
  answer : FaultAnswer
  /-- Whether a deletion is carried out although it fails. -/
  applied : Bool
  deriving DecidableEq, Repr

namespace Fault

/-- A condition that is set holds of a property that a request has only if they are equal. -/
def agrees {τ : Type} [DecidableEq τ] (condition property : Option τ) : Bool :=
  match condition, property with
  | some wanted, some actual => wanted = actual
  | _, _ => true

def befalls (fault : Fault) (request : Request) : Bool :=
  fault.operation = request.operation && agrees fault.host request.host? &&
    agrees fault.kind request.kind? && agrees fault.name request.name? &&
    agrees fault.tag request.tag?

/-- The first fault that strikes a request, and the faults that are left. A fault that lets the
request pass counts it. -/
def strike? (request : Request) : List Fault → Option Fault × List Fault
  | [] => (none, [])
  | fault :: faults =>
      if !fault.befalls request || fault.skip = 0 && fault.times = some 0 then
        let (struck, rest) := strike? request faults
        (struck, fault :: rest)
      else if fault.skip = 0 then
        (some fault, { fault with times := fault.times.map (· - 1) } :: faults)
      else
        let (struck, rest) := strike? request faults
        (struck, { fault with skip := fault.skip - 1 } :: rest)

end Fault

end Tenancy
