import Tenancy.Kind

/-!
Appliances, the objects that live in a partition, and the service whose tenant owns the partition.
-/

namespace Tenancy

structure Appliance where
  hostname : String
  deriving DecidableEq, Repr

structure Resource where
  kind : Kind
  name : String
  partition : String
  /-- The network tag, which only a VLAN carries. -/
  tag : Option UInt16
  deriving DecidableEq, Repr

namespace Resource

/-- The folder of a partition bears the partition's name. -/
def folder (partition : String) : Resource :=
  ⟨.folder, partition, partition, none⟩

def routeDomain (partition name : String) : Resource :=
  ⟨.routeDomain, name, partition, none⟩

/-- The tag that the fabric has to release with this object: that of a VLAN, unless it is zero. -/
def fabricTag (resource : Resource) : Option UInt16 :=
  if resource.kind = .vlan then resource.tag.filter (· ≠ 0) else none

theorem fabricTag_eq_some_iff {resource : Resource} {tag : UInt16} :
    resource.fabricTag = some tag ↔
      resource.kind = .vlan ∧ resource.tag = some tag ∧ tag ≠ 0 := by
  unfold fabricTag
  split <;> simp_all [Option.filter_eq_some_iff]

end Resource

/-- A tenant with the appliances that back it and, if it has one, its own traffic group. -/
structure Service where
  tenant : String
  trafficGroup : Option String
  appliances : List Appliance
  deriving DecidableEq, Repr

def Service.hosts (service : Service) : List String :=
  service.appliances.map (·.hostname)

end Tenancy
