import Tenancy.Resource
import Tenancy.Json.Value

/-!
How a tenant's folder is named and described, and how traffic groups are qualified.
-/

namespace Tenancy

def commonPartition : String := "Common"

/-- A traffic group's name starts at the root; a bare one lies in the common partition. -/
def qualifyTrafficGroup (name : String) : String :=
  if name.startsWith "/" then name else "/" ++ commonPartition ++ "/" ++ name

/-- Names the folders of tenants by putting the same text before each tenant's own name. -/
structure Naming where
  beginning : String
  deriving DecidableEq, Repr

namespace Naming

def default : Naming := ⟨"Project_"⟩

def folderName (naming : Naming) (tenant : String) : String :=
  naming.beginning ++ tenant

/-- What an appliance is told when it has to create the folder of a service's tenant. -/
def descriptor (naming : Naming) (service : Service) (trafficGroup : String) : Json :=
  let name := naming.folderName service.tenant
  .object [
    ("name", .string name),
    ("subPath", .string "/"),
    ("fullPath", .string ("/" ++ name)),
    ("hidden", .bool false),
    ("inheritedDevicegroup", .string "true"),
    ("trafficGroup", .string trafficGroup),
    ("inheritedTrafficGroup", .string "false")]

end Naming

end Tenancy
