import Tenancy.Naming

/-!
Settings of the partition manager: its default traffic group, and how often and how patiently a
deletion is tried again.
-/

namespace Tenancy

structure Span where
  seconds : UInt64
  nanoseconds : Fin 1000000000
  deriving DecidableEq, Repr

namespace Span

def nanosecondsOf (nanoseconds : Nat) : Fin 1000000000 :=
  ⟨nanoseconds % 1000000000, Nat.mod_lt _ (by decide)⟩

def ofMilliseconds (milliseconds : UInt64) : Span :=
  ⟨milliseconds / 1000, nanosecondsOf ((milliseconds % 1000).toNat * 1000000)⟩

/-- The span in milliseconds; a started one counts whole, so that no wait ends too early. -/
def milliseconds (span : Span) : Nat :=
  span.seconds.toNat * 1000 + (span.nanoseconds.val + 999999) / 1000000

theorem milliseconds_ofMilliseconds (count : UInt64) :
    (ofMilliseconds count).milliseconds = count.toNat := by
  have small : count.toNat % 1000 * 1000000 < 1000000000 := by omega
  simp only [milliseconds, ofMilliseconds, nanosecondsOf, UInt64.toNat_div, UInt64.toNat_mod,
    UInt64.reduceToNat, Nat.mod_eq_of_lt small]
  omega

end Span

/-- Deletions are tried up to `maxAttempts` times, the first attempt included, with the same
pause between two attempts. -/
structure RetryPolicy where
  maxAttempts : UInt32
  interval : Span
  deriving DecidableEq, Repr

namespace RetryPolicy

def default : RetryPolicy := ⟨3, .ofMilliseconds 1000⟩

/-- Attempts that may follow the first one. At least one attempt is always made. -/
def retries (policy : RetryPolicy) : Nat := policy.maxAttempts.toNat - 1

end RetryPolicy

structure Settings where
  defaultTrafficGroup : String
  retry : RetryPolicy
  deriving DecidableEq, Repr

namespace Settings

def default : Settings := ⟨"traffic-group-1", .default⟩

def trafficGroup (settings : Settings) (service : Service) : String :=
  qualifyTrafficGroup (service.trafficGroup.getD settings.defaultTrafficGroup)

end Settings

end Tenancy
