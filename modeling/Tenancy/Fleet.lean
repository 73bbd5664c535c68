import Tenancy.Resource

/-!
A fleet of appliances as plain data: which folders and objects are on each host.
-/

namespace Tenancy

/-- An object on an appliance, and the partition whose listing shows it. -/
structure Placed where
  resource : Resource
  listedIn : String
  deriving DecidableEq, Repr

/-- One appliance of a fleet. Folders are a set; the other objects are in the order of insertion. -/
structure Host where
  folders : List String
  objects : List Placed
  deriving DecidableEq, Repr

namespace Host

def empty : Host := ⟨[], []⟩

def addFolder (host : Host) (name : String) : Host :=
  if name ∈ host.folders then host else { host with folders := host.folders ++ [name] }

def add (host : Host) (object : Placed) : Host :=
  { host with objects := host.objects ++ [object] }

def listing (host : Host) (kind : Kind) (partition : String) : List Resource :=
  (host.objects.filter fun object =>
    object.resource.kind = kind && object.listedIn == partition).map (·.resource)

def answersTo (resource : Resource) (object : Placed) : Bool :=
  object.resource.kind = resource.kind && object.resource.partition == resource.partition &&
    object.resource.name == resource.name

def holds (host : Host) (resource : Resource) : Bool :=
  if resource.kind = .folder then resource.name ∈ host.folders
  else host.objects.any (answersTo resource)

def remove (host : Host) (resource : Resource) : Host :=
  if resource.kind = .folder then
    { host with folders := host.folders.filter (· ≠ resource.name) }
  else { host with objects := host.objects.filter fun object => !answersTo resource object }

end Host

/-- Appliances by host name. A host that is not named is empty. -/
structure Fleet where
  hosts : List (String × Host)
  deriving DecidableEq, Repr

namespace Fleet

def host (fleet : Fleet) (name : String) : Host :=
  (fleet.hosts.lookup name).getD .empty

def put (name : String) (host : Host) : List (String × Host) → List (String × Host)
  | [] => [(name, host)]
  | (other, old) :: rest =>
      if other == name then (name, host) :: rest else (other, old) :: put name host rest

/-- Changes one host, which begins to exist by that. -/
def change (fleet : Fleet) (name : String) (change : Host → Host) : Fleet :=
  ⟨put name (change (fleet.host name)) fleet.hosts⟩

end Fleet

end Tenancy
