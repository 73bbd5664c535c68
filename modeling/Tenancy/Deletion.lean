import Tenancy.Backend
import Tenancy.Settings

/-!
Deletion of one object, tried again while the appliance's session turns out to have expired.
Sessions expire on their own, whatever the request at hand, so only such an answer is worth
another attempt. An object that is not found is already gone, which is what was wanted.
-/

namespace Tenancy.Deletion

def giveUp (host : String) (resource : Resource) (attempts : Nat) (source : DeviceError) :
    Action Unit := do
  Action.note .error .deleter
    ("Failed to delete " ++ resource.kind.text ++ " " ++ resource.name ++ " on " ++ host ++ ": " ++
      source.message)
  throw (.deletion host resource.kind resource.name attempts source)

/-- Makes attempt number `number`, after which `retries` more are allowed. -/
def attempt (interval : Span) (host : String) (resource : Resource) :
    (retries number : Nat) → Action Unit
  | retries, number => do
      match ← Action.ask (.delete host resource) with
      | .ok () =>
          Action.note .debug .deleter
            ("Deleted " ++ resource.kind.text ++ " " ++ resource.name ++ " on " ++ host)
      | .error (.notFound ..) =>
          Action.note .debug .deleter
            (resource.kind.text ++ " " ++ resource.name ++ " already absent on " ++ host)
      | .error (.authExpired reporter detail) =>
          let source := DeviceError.authExpired reporter detail
          match retries with
          | 0 => giveUp host resource number source
          | retries + 1 =>
              Action.note .warn .deleter
                ("Attempt " ++ toString number ++ ": " ++ source.message)
              if ← Action.pause interval.milliseconds then
                throw (.cancelled host resource.partition)
              else
                attempt interval host resource retries (number + 1)
      | .error source => giveUp host resource number source

/-- Deletes an object. Between two attempts the policy's interval passes, unless shutdown is
requested meanwhile, which cancels the deletion. -/
def delete (policy : RetryPolicy) (host : String) (resource : Resource) : Action Unit :=
  attempt policy.interval host resource policy.retries 1

end Tenancy.Deletion
