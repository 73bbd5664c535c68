/-!
The kinds of objects that live in a tenant's partition, their names, and the three lists that a
teardown follows.
-/

namespace Tenancy

/-- What an object on an appliance is; the partition's own folder is one of the kinds. -/
inductive Kind
  | folder
  | virtualAddress
  | node
  | snat
  | snatPool
  | snatTranslation
  | selfIp
  | vlan
  | routeDomain
  deriving DecidableEq, Repr

namespace Kind

def all : List Kind :=
  [folder, virtualAddress, node, snat, snatPool, snatTranslation, selfIp, vlan, routeDomain]

/-- Kinds that carry live traffic: one object of them keeps the partition from being torn down. -/
def loadBearing : List Kind := [virtualAddress, node]

/-- Kinds whose objects hold a port that was allocated elsewhere. -/
def portBound : List Kind := [snatTranslation, selfIp]

/-- Kinds to delete before the route domains, in this order: any of them may refer to one. -/
def drainOrder : List Kind := [snat, snatPool, snatTranslation, selfIp, vlan]

def text : Kind → String
  | folder => "folder"
  | virtualAddress => "virtual-address"
  | node => "node"
  | snat => "snat"
  | snatPool => "snatpool"
  | snatTranslation => "snat-translation"
  | selfIp => "self-ip"
  | vlan => "vlan"
  | routeDomain => "route-domain"

def ofText? (text : String) : Option Kind :=
  all.find? fun kind => kind.text == text

theorem mem_all (kind : Kind) : kind ∈ all := by
  cases kind <;> decide

theorem ofText?_text (kind : Kind) : ofText? kind.text = some kind := by
  cases kind <;> rfl

theorem text_injective {left right : Kind} (same : left.text = right.text) : left = right := by
  have read := congrArg ofText? same
  simpa only [ofText?_text, Option.some.injEq] using read

end Kind

end Tenancy
