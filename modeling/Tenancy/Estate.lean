import Tenancy.Fault
import Tenancy.Fleet
import Tenancy.Surroundings

/-!
A fleet that answers requests by itself, with latencies and faults, beside a keeper of ports and a
fabric that always comply unless a fault strikes.
-/

namespace Tenancy

structure Estate where
  fleet : Fleet
  /-- How long each host takes to take a request in, in milliseconds; none where none is given. -/
  latencies : List (String × Nat)
  faults : List Fault
  deriving Repr

namespace Estate

def latency (estate : Estate) (request : Request) : Nat :=
  match request with
  | .releasePort _ | .releaseTag .. => 0
  | .probe host .. | .create host .. | .list host .. | .delete host _ =>
      (estate.latencies.lookup host).getD 0

/-- Removes what answers to a resource; a host without it stays as it is. -/
def removed (fleet : Fleet) (host : String) (resource : Resource) : Fleet :=
  if (fleet.host host).holds resource then fleet.change host (·.remove resource) else fleet

def comply (fleet : Fleet) : (request : Request) → request.Answer × Fleet
  | .probe host _ name => (.ok (decide (name ∈ (fleet.host host).folders)), fleet)
  | .create host _ payload =>
      let name := Request.payloadName payload
      (.ok (.folder name), fleet.change host (·.addFolder name))
  | .list host kind partition => (.ok ((fleet.host host).listing kind partition), fleet)
  | .delete host resource =>
      if (fleet.host host).holds resource then (.ok (), removed fleet host resource)
      else (.error (.notFound host resource.kind resource.name), fleet)
  | .releasePort _ => (.ok (), fleet)
  | .releaseTag .. => (.ok (), fleet)

def fail (fleet : Fleet) (fault : Fault) : (request : Request) → request.Answer × Fleet
  | .probe host kind name => (.error (fault.answer.deviceError host kind name), fleet)
  | .create host kind payload =>
      (.error (fault.answer.deviceError host kind (Request.payloadName payload)), fleet)
  | .list host kind partition => (.error (fault.answer.deviceError host kind partition), fleet)
  | .delete host resource =>
      (.error (fault.answer.deviceError host resource.kind resource.name),
        if fault.applied then removed fleet host resource else fleet)
  | .releasePort _ => (.error fault.answer.callbackError, fleet)
  | .releaseTag .. => (.error fault.answer.callbackError, fleet)

def respond (request : Request) (estate : Estate) : request.Answer × Estate :=
  let (struck, faults) := Fault.strike? request estate.faults
  let (answer, fleet) :=
    match struck with
    | none => comply estate.fleet request
    | some fault => fail estate.fleet fault request
  (answer, { estate with fleet := fleet, faults := faults })

/-- The estate as a peer; the request of that number, if one is given, sets off shutdown. -/
def peer (raiseOnCall : Option Nat) : Peer Backend Estate where
  latency := latency
  raises := fun earlier _ _ => raiseOnCall = some (earlier + 1)
  respond := respond
  notice := []

end Estate

end Tenancy
