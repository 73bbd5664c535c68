import Tenancy.Backend

/-!
Reads of a partition's contents. They always ask the appliance: what a partition holds is never
remembered from one pass to the next.
-/

namespace Tenancy.Catalog

def list (host partition : String) (kind : Kind) : Action (List Resource) := do
  match ← Action.ask (.list host kind partition) with
  | .ok resources => return resources
  | .error source => throw (.catalog host partition kind source)

def routeDomainNames (host partition : String) : Action (List String) := do
  let domains ← list host partition .routeDomain
  return domains.map (·.name)

/-- Whether a partition holds nothing of these kinds; stops at the first kind that it holds. -/
def lacks (host partition : String) : List Kind → Action Bool
  | [] => return true
  | kind :: kinds => do
      let resources ← list host partition kind
      if resources.isEmpty then lacks host partition kinds else return false

def isEmpty (host partition : String) : Action Bool :=
  lacks host partition Kind.loadBearing

end Tenancy.Catalog
