import Tenancy.Backend
import Tenancy.Settings

/-!
Creation of a tenant's partition on every appliance of its service. Appliances that already have
the folder are left alone, and the first failure ends the creation; it can be run again.
-/

namespace Tenancy

structure Provisioned where
  partition : String
  trafficGroup : String
  created : List String
  deriving DecidableEq, Repr

namespace Provisioning

/-- Makes sure that one appliance has the folder; tells whether it had to be created. -/
def assureOn (naming : Naming) (service : Service) (trafficGroup host : String) :
    Action Bool := do
  let partition := naming.folderName service.tenant
  match ← Action.ask (.probe host .folder partition) with
  | .error source => throw (.provisioning service.tenant host source)
  | .ok true =>
      Action.note .debug .manager ("Folder " ++ partition ++ " already exists on " ++ host)
      return false
  | .ok false =>
      match ← Action.ask (.create host .folder (naming.descriptor service trafficGroup)) with
      | .error source =>
          Action.note .error .manager
            ("Error creating folder " ++ partition ++ " on " ++ host ++ ": " ++ source.message)
          throw (.provisioning service.tenant host source)
      | .ok _ =>
          Action.note .info .manager
            ("Created folder " ++ partition ++ " on " ++ host ++ " (traffic group " ++
              trafficGroup ++ ")")
          return true

def assureEach (naming : Naming) (service : Service) (trafficGroup : String) :
    List String → Action (List String)
  | [] => return []
  | host :: hosts => do
      let created ← assureOn naming service trafficGroup host
      let others ← assureEach naming service trafficGroup hosts
      return if created then host :: others else others

def assureCreated (naming : Naming) (settings : Settings) (service : Service) :
    Action Provisioned := do
  if service.appliances.isEmpty then throw (.noAppliances service.tenant)
  let partition := naming.folderName service.tenant
  let trafficGroup := settings.trafficGroup service
  Action.note .debug .manager ("Creating tenant folder " ++ partition)
  let created ← assureEach naming service trafficGroup service.hosts
  return ⟨partition, trafficGroup, created⟩

end Provisioning

end Tenancy
