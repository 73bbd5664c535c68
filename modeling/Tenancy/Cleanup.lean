import Tenancy.Teardown
import Tenancy.Undertaking

/-!
Cleanup of a tenant's partition on all appliances of its service: in turn until the first failure,
or side by side, with all failures reported together.
-/

namespace Tenancy

/-- How a failure on one appliance bears on the others. -/
inductive Policy
  /-- One appliance after another; the first failure ends the cleanup. -/
  | abortOnFirstFailure
  /-- All appliances, at most `maxParallel` at a time but at least one. -/
  | bestEffort (maxParallel : Nat)
  deriving DecidableEq, Repr

namespace Cleanup

def inTurn (retry : RetryPolicy) (partition : String) :
    List String → Action (List (String × Outcome))
  | [] => return []
  | host :: hosts => do
      let outcome ← Teardown.run retry host partition
      let outcomes ← inTurn retry partition hosts
      return (host, outcome) :: outcomes

/-- Reports the results of all hosts: an outcome each, or all failures with the outcomes of the
hosts that did not fail. -/
def conclude (partition : String) (outcomes : List (String × Outcome))
    (failures : List (String × TenantError)) :
    List (String × Except TenantError Outcome) → Action Report
  | [] =>
      if failures.isEmpty then return ⟨outcomes.reverse⟩
      else throw (.incomplete failures.reverse ⟨outcomes.reverse⟩)
  | (host, .ok outcome) :: results =>
      conclude partition ((host, outcome) :: outcomes) failures results
  | (host, .error failure) :: results => do
      Action.note .warn .manager
        ("Cleanup of " ++ partition ++ " on " ++ host ++ " failed: " ++ failure.message)
      conclude partition outcomes ((host, failure) :: failures) results

def undertaking (retry : RetryPolicy) (partition : String) (hosts : List String) :
    Policy → Undertaking Backend (Except TenantError Outcome) (Except TenantError Report)
  | .abortOnFirstFailure => .alone (Report.mk <$> inTurn retry partition hosts).run
  | .bestEffort maxParallel =>
      .together (max maxParallel 1)
        (hosts.map fun host => (Teardown.run retry host partition).run)
        fun results => (conclude partition [] [] (hosts.zip results)).run

def ofService (naming : Naming) (retry : RetryPolicy) (service : Service) (policy : Policy) :
    Undertaking Backend (Except TenantError Outcome) (Except TenantError Report) :=
  undertaking retry (naming.folderName service.tenant) service.hosts policy

end Cleanup

end Tenancy
