import Tenancy.Backend

/-!
The programs behind actions, one equation for each way to make an action.
-/

namespace Tenancy

theorem Program.via_direct {α : Type} (program : Program Backend α) :
    program.via Client.direct = program := by
  induction program with
  | done => rfl
  | write event next ih => exact congrArg (write event) ih
  | ask query next ih => exact congrArg (ask query) (funext ih)
  | pause milliseconds next ih => exact congrArg (pause milliseconds) (funext ih)
  | look next ih => exact congrArg look (funext ih)

namespace Action

variable {α β : Type}

theorem run_pure (value : α) : (pure value : Action α).run = .done (.ok value) := rfl

theorem run_throw (failure : TenantError) :
    (throw failure : Action α).run = .done (.error failure) := rfl

theorem run_ask (request : Request) :
    (ask request).run = .ask request fun answer => .done (.ok answer) := rfl

theorem run_note (level : Level) (origin : Origin) (message : String) :
    (note level origin message).run = .write ⟨level, origin, message⟩ (.done (.ok ())) := rfl

theorem run_shutdownRequested :
    shutdownRequested.run = .look fun requested => .done (.ok requested) := rfl

def andThen (rest : α → Action β) : Except TenantError α → Program Backend (Except TenantError β)
  | .ok value => (rest value).run
  | .error failure => .done (.error failure)

theorem run_bind (action : Action α) (rest : α → Action β) :
    (action >>= rest).run = action.run.bind (andThen rest) := by
  change action.run.bind _ = _
  congr 1
  funext result
  cases result <;> rfl

theorem run_map (change : α → β) (action : Action α) :
    (change <$> action).run = action.run.bind fun result => .done (result.map change) := by
  change action.run.bind _ = _
  congr 1
  funext result
  cases result <;> rfl

end Action

end Tenancy
