import Tenancy.Resource

/-!
What can go wrong, with the text of each failure and the failure behind it.
-/

namespace Tenancy

/-- A failure that a device reports. Only the class matters to the manager: an expired session is
worth another attempt, a missing object counts as deleted, all else is final. -/
inductive DeviceError
  | authExpired (host detail : String)
  | notFound (host : String) (kind : Kind) (name : String)
  | other (host detail : String)
  deriving DecidableEq, Repr

namespace DeviceError

def isAuthExpired : DeviceError → Bool
  | authExpired .. => true
  | _ => false

def isNotFound : DeviceError → Bool
  | notFound .. => true
  | _ => false

def message : DeviceError → String
  | authExpired host detail => "authentication expired on " ++ host ++ ": " ++ detail
  | notFound host kind name => kind.text ++ " '" ++ name ++ "' not found on " ++ host
  | other host detail => "device error on " ++ host ++ ": " ++ detail

end DeviceError

/-- A failure of one of the services beside the appliances, which hold ports and network tags. -/
structure CallbackError where
  message : String
  deriving DecidableEq, Repr

/-- How one appliance stands after a teardown that did not fail. -/
inductive Outcome
  | absent
  /-- Virtual addresses or nodes are left, so nothing was changed. -/
  | notEmpty
  | removed
  deriving DecidableEq, Repr

namespace Outcome

def text : Outcome → String
  | absent => "Absent"
  | notEmpty => "NotEmpty"
  | removed => "Removed"

end Outcome

structure Report where
  outcomes : List (String × Outcome)
  deriving DecidableEq, Repr

namespace Report

def outcome? (report : Report) (host : String) : Option Outcome :=
  report.outcomes.lookup host

end Report

inductive TenantError
  | noAppliances (tenant : String)
  | provisioning (tenant host : String) (source : DeviceError)
  | catalog (host partition : String) (kind : Kind) (source : DeviceError)
  | deletion (host : String) (kind : Kind) (name : String) (attempts : Nat)
      (source : DeviceError)
  | fabricCleanup (host : String) (tag : UInt16) (source : CallbackError)
  | routeDomain (host partition name : String) (source : DeviceError)
  | folder (host partition : String) (source : DeviceError)
  | cancelled (host partition : String)
  | incomplete (failures : List (String × TenantError)) (report : Report)
  deriving Repr

namespace TenantError

def message : TenantError → String
  | noAppliances tenant => "tenant " ++ tenant ++ " has no appliances"
  | provisioning tenant host _ => "folder creation error for tenant " ++ tenant ++ " on " ++ host
  | catalog host partition kind _ =>
      "failed to list " ++ kind.text ++ " in partition " ++ partition ++ " on " ++ host
  | deletion host kind name attempts _ =>
      "failed to delete " ++ kind.text ++ " '" ++ name ++ "' on " ++ host ++ " after " ++
        toString attempts ++ " attempt(s)"
  | fabricCleanup host tag _ =>
      "fabric cleanup of tag " ++ toString tag.toNat ++ " for " ++ host ++ " failed"
  | routeDomain host partition name _ =>
      "failed to delete route domain '" ++ name ++ "' in partition " ++ partition ++ " on " ++
        host ++ "; manual intervention might be required"
  | folder host partition _ =>
      "folder deletion for partition " ++ partition ++ " on " ++ host ++
        " failed; manual cleanup might be required"
  | cancelled host partition =>
      "teardown of partition " ++ partition ++ " on " ++ host ++ " cancelled"
  | incomplete failures _ =>
      "cleanup incomplete on " ++ toString failures.length ++ " appliance(s)"

def causes : TenantError → List String
  | provisioning _ _ source => [source.message]
  | catalog _ _ _ source => [source.message]
  | deletion _ _ _ _ source => [source.message]
  | fabricCleanup _ _ source => [source.message]
  | routeDomain _ _ _ source => [source.message]
  | folder _ _ source => [source.message]
  | noAppliances .. | cancelled .. | incomplete .. => []

end TenantError

end Tenancy
