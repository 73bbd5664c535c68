import Tenancy.Catalog
import Tenancy.Deletion

/-!
Teardown of a partition on one appliance. Its phases follow each other strictly: the route domains
are listed; a partition that still carries traffic is left alone; ports are offered for release;
everything that may refer to a route domain is deleted, kind by kind; then the route domains; then
the folder. Every step takes an object that is already gone for deleted, so a teardown that
stopped half-way is simply run again. Between phases a requested shutdown ends it.
-/

namespace Tenancy.Teardown

def checkpoint (host partition : String) : Action Unit := do
  if ← Action.shutdownRequested then
    Action.note .warn .manager
      ("Shutdown requested, leaving partition " ++ partition ++ " on " ++ host ++
        " for the next pass")
    throw (.cancelled host partition)

/-- Offers the port of each object for release; that it is not released stops nothing. -/
def releaseEach : List Resource → Action Unit
  | [] => return
  | resource :: resources => do
      match ← Action.ask (.releasePort resource.name) with
      | .ok () => pure ()
      | .error source =>
          Action.note .debug .manager
            ("Failed to delete port " ++ resource.name ++ ": " ++ source.message)
      releaseEach resources

/-- Offers the ports of these kinds for release, passing over a kind that cannot be listed. -/
def releasePorts (host partition : String) : List Kind → Action Unit
  | [] => return
  | kind :: kinds => do
      match ← Action.ask (.list host kind partition) with
      | .ok resources => releaseEach resources
      | .error source =>
          Action.note .debug .manager
            ("Skipping port release for " ++ kind.text ++ ": " ++
              (TenantError.catalog host partition kind source).message)
      releasePorts host partition kinds

def releaseTag (host : String) (resource : Resource) : Action Unit := do
  match resource.fabricTag with
  | none => return
  | some tag =>
      match ← Action.ask (.releaseTag host tag) with
      | .ok () => return
      | .error source =>
          Action.note .error .manager
            ("Fabric cleanup of tag " ++ toString tag.toNat ++ " for " ++ host ++ " failed: " ++
              source.message)
          throw (.fabricCleanup host tag source)

def drainEach (policy : RetryPolicy) (host : String) : List Resource → Action Unit
  | [] => return
  | resource :: resources => do
      Deletion.delete policy host resource
      releaseTag host resource
      drainEach policy host resources

def drain (policy : RetryPolicy) (host partition : String) : List Kind → Action Unit
  | [] => return
  | kind :: kinds => do
      checkpoint host partition
      let resources ← Catalog.list host partition kind
      drainEach policy host resources
      drain policy host partition kinds

def deleteRouteDomains (host partition : String) : List String → Action Unit
  | [] => return
  | name :: names => do
      match ← Action.ask (.delete host (.routeDomain partition name)) with
      | .ok () =>
          Action.note .debug .manager ("Deleted route domain " ++ name ++ " on " ++ host)
      | .error (.notFound ..) => pure ()
      | .error source =>
          Action.note .error .manager
            ("Failed to delete route domain " ++ name ++ " on " ++ host ++ ": " ++
              source.message ++ ". Manual intervention might be required.")
          throw (.routeDomain host partition name source)
      deleteRouteDomains host partition names

def deleteFolder (host partition : String) : Action Unit := do
  match ← Action.ask (.delete host (.folder partition)) with
  | .ok () => return
  | .error (.notFound ..) => return
  | .error source =>
      Action.note .error .manager
        ("Folder deletion for partition " ++ partition ++ " on " ++ host ++ " failed: " ++
          source.message ++ ". Manual cleanup might be required.")
      throw (.folder host partition source)

/-- The part of a teardown that changes things, for a partition without traffic whose route
domains bear these names. -/
def dismantle (policy : RetryPolicy) (host partition : String) (routeDomains : List String) :
    Action Outcome := do
  checkpoint host partition
  releasePorts host partition Kind.portBound
  checkpoint host partition
  drain policy host partition Kind.drainOrder
  checkpoint host partition
  Action.note .info .manager ("Deleting empty partition " ++ partition ++ " on " ++ host)
  deleteRouteDomains host partition routeDomains
  checkpoint host partition
  deleteFolder host partition
  Action.note .info .manager ("Partition " ++ partition ++ " removed from " ++ host)
  return .removed

def run (policy : RetryPolicy) (host partition : String) : Action Outcome := do
  match ← Action.ask (.probe host .folder partition) with
  | .error source => throw (.catalog host partition .folder source)
  | .ok false =>
      Action.note .debug .manager ("Partition " ++ partition ++ " does not exist on " ++ host)
      return .absent
  | .ok true =>
      let routeDomains ← Catalog.routeDomainNames host partition
      if ← Catalog.isEmpty host partition then
        dismantle policy host partition routeDomains
      else
        Action.note .debug .manager
          ("Partition " ++ partition ++ " on " ++ host ++
            " still has virtual addresses or nodes")
        return .notEmpty

end Tenancy.Teardown
