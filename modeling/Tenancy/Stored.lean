import Tenancy.Settings
import Tenancy.Json.Record

/-!
The stored form of the library's records: how each one is written as JSON and read from it.
-/

namespace Tenancy

open Json (Node Field Layout)

namespace Kind

def toJson (kind : Kind) : Json := .string kind.text

/-- A kind is its name, or an object whose only member bears that name and holds null. -/
def ofNode? : Node → Option Kind
  | .string (some text) => ofText? text
  | .object [(some text, .null)] => ofText? text
  | _ => none

end Kind

namespace Appliance

def layout : Layout := ⟨[⟨"hostname", false⟩], false⟩

def toJson (appliance : Appliance) : Json :=
  .object [("hostname", .string appliance.hostname)]

def ofNode? (node : Node) : Option Appliance := do
  match ← layout.values? node with
  | [some hostname] => return ⟨← hostname.text?⟩
  | _ => none

end Appliance

/-- A field that is absent or null is none. -/
def optionalField? (decode : Node → Option α) : Option Node → Option (Option α)
  | none => some none
  | some node => node.optional? decode

def tagOfNode? (node : Node) : Option UInt16 :=
  (node.natBelow? UInt16.size).map UInt16.ofNat

namespace Resource

def layout : Layout :=
  ⟨[⟨"kind", false⟩, ⟨"name", false⟩, ⟨"partition", false⟩, ⟨"tag", true⟩], false⟩

def toJson (resource : Resource) : Json :=
  .object ([("kind", resource.kind.toJson), ("name", .string resource.name),
    ("partition", .string resource.partition)] ++
    resource.tag.toList.map fun tag => ("tag", .ofNat tag.toNat))

def ofNode? (node : Node) : Option Resource := do
  match ← layout.values? node with
  | [some kind, some name, some partition, tag] =>
      return ⟨← Kind.ofNode? kind, ← name.text?, ← partition.text?,
        ← optionalField? tagOfNode? tag⟩
  | _ => none

end Resource

namespace Service

def layout : Layout :=
  ⟨[⟨"tenant_id", false⟩, ⟨"traffic_group", true⟩, ⟨"appliances", false⟩], false⟩

def toJson (service : Service) : Json :=
  .object [("tenant_id", .string service.tenant),
    ("traffic_group", (service.trafficGroup.map Json.string).getD .null),
    ("appliances", .array (service.appliances.map Appliance.toJson))]

def ofNode? (node : Node) : Option Service := do
  match ← layout.values? node with
  | [some tenant, group, some appliances] =>
      return ⟨← tenant.text?, ← optionalField? Node.text? group,
        ← (← appliances.items?).mapM Appliance.ofNode?⟩
  | _ => none

end Service

namespace Span

def layout : Layout := ⟨[⟨"secs", false⟩, ⟨"nanos", false⟩], true⟩

def toJson (span : Span) : Json :=
  .object [("secs", .ofNat span.seconds.toNat), ("nanos", .ofNat span.nanoseconds.val)]

/-- Nanoseconds that fill whole seconds are carried, as long as the seconds have room. -/
def carry? (seconds nanoseconds : Nat) : Option Span :=
  let total := seconds + nanoseconds / 1000000000
  if total < UInt64.size then
    some ⟨UInt64.ofNat total, nanosecondsOf nanoseconds⟩
  else none

def ofNode? (node : Node) : Option Span := do
  match ← layout.values? node with
  | [some seconds, some nanoseconds] =>
      carry? (← seconds.natBelow? UInt64.size) (← nanoseconds.natBelow? UInt32.size)
  | _ => none

end Span

namespace RetryPolicy

def layout : Layout := ⟨[⟨"max_attempts", false⟩, ⟨"interval", false⟩], false⟩

def toJson (policy : RetryPolicy) : Json :=
  .object [("max_attempts", .ofNat policy.maxAttempts.toNat),
    ("interval", policy.interval.toJson)]

def ofNode? (node : Node) : Option RetryPolicy := do
  match ← layout.values? node with
  | [some attempts, some interval] =>
      return ⟨UInt32.ofNat (← attempts.natBelow? UInt32.size), ← Span.ofNode? interval⟩
  | _ => none

end RetryPolicy

namespace Settings

def layout : Layout := ⟨[⟨"default_traffic_group", false⟩, ⟨"retry", false⟩], false⟩

def toJson (settings : Settings) : Json :=
  .object [("default_traffic_group", .string settings.defaultTrafficGroup),
    ("retry", settings.retry.toJson)]

def ofNode? (node : Node) : Option Settings := do
  match ← layout.values? node with
  | [some group, some retry] => return ⟨← group.text?, ← RetryPolicy.ofNode? retry⟩
  | _ => none

end Settings

end Tenancy
