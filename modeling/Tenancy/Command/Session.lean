import Tenancy.Command.Arguments
import Tenancy.Gateway
import Tenancy.Provisioning

/-!
A session of the command: the work that a command line asks for, what is logged around it, and how
a failure is reported.
-/

namespace Tenancy.Command

def interruption : Event :=
  ⟨.info, .command, "Received Ctrl-C, stopping after the current step"⟩

/-- A failure with what was being done, and its causes, the nearest first. -/
structure Failed where
  context : String
  causes : List String
  deriving DecidableEq, Repr

namespace Failed

def ofError (context : String) (error : TenantError) : Failed :=
  ⟨context, error.message :: error.causes⟩

/-- The lines of a text, all but the first indented. -/
def indent (blanks : String) (text : String) : String :=
  String.ofList (text.toList.flatMap fun character =>
    if character = '\n' then '\n' :: blanks.toList else [character])

/-- Several causes are numbered. -/
def causeLine (numbered : Bool) (cause : String) (number : Nat) : String :=
  if numbered then
    let digits := toString number
    "\n" ++ String.ofList (List.replicate (5 - digits.length) ' ') ++ digits ++ ": " ++
      indent "       " cause
  else "\n    " ++ indent "    " cause

def report (failed : Failed) : String :=
  let lines := failed.causes.mapIdx fun number cause =>
    causeLine (1 < failed.causes.length) cause number
  let causes := if lines.isEmpty then "" else "\n\nCaused by:" ++ String.join lines
  "Error: " ++ failed.context ++ causes ++ "\n"

end Failed

namespace Options

def service (options : Options) (tenant : String) : Service :=
  ⟨tenant, none, options.appliances.map Appliance.mk⟩

def gateway (options : Options) : Gateway :=
  ⟨⟨options.deviceScheme, options.username, options.password⟩, options.pluginEndpoint,
    options.fabricEndpoint⟩

def opening (options : Options) : List Event :=
  if options.fabricEndpoint.isNone then
    [⟨.warn, .command, "No fabric endpoint configured, tagged VLANs cannot be removed"⟩]
  else []

end Options

def closeCreation : Except TenantError Provisioned → Program Backend (Except Failed Unit)
  | .error error => return .error (.ofError "Tenant creation failed" error)
  | .ok provisioned => do
      Program.note .info .command
        ("Partition " ++ provisioned.partition ++ " ready (traffic group " ++
          provisioned.trafficGroup ++ ", created on " ++ toString provisioned.created.length ++
          " appliance(s))")
      return .ok ()

def noteOutcomes : List (String × Outcome) → Program Backend Unit
  | [] => return ()
  | (host, outcome) :: outcomes => do
      Program.note .info .command (host ++ ": " ++ outcome.text)
      noteOutcomes outcomes

def closeCleanup : Except TenantError Report → Program Backend (Except Failed Unit)
  | .error error => do
      Program.note .error .command
        ("Teardown incomplete, safe to retry later: " ++ error.message)
      return .error (.ofError "Tenant cleanup failed" error)
  | .ok report => do
      noteOutcomes report.outcomes
      return .ok ()

def Options.work (options : Options) :
    Undertaking Web.Http (Except TenantError Outcome) (Except Failed Unit) :=
  let work : Undertaking Backend (Except TenantError Outcome) (Except Failed Unit) :=
    match options.job with
    | .create tenant =>
        .alone ((Provisioning.assureCreated options.naming options.settings
          (options.service tenant)).run.bind closeCreation)
    | .cleanup tenant policy =>
        (Cleanup.ofService options.naming options.settings.retry (options.service tenant)
          policy).andThen closeCleanup
  work.via options.gateway.client

/-- Surroundings of a session: nothing was asked yet, and it can be interrupted. -/
def surroundings {σ : Type} (options : Options) (state : σ) : Surroundings Web.Http σ :=
  { Surroundings.start state with
    signal := some ⟨false, true⟩
    events := options.opening.reverse }

def version : String := "mvirt-tenant 0.1.0\n"

def usage : String :=
  "Usage: mvirt-tenant [OPTIONS] --appliance <APPLIANCE> --password <PASSWORD> <COMMAND>\n"

end Tenancy.Command
