import Tenancy.Command.Directive
import Tenancy.Event

/-!
Which events are shown. A filter is a list of directives between commas. Of those that concern an
event, the one that describes it most closely decides.
-/

namespace Tenancy.Command

structure LogFilter where
  directives : List Directive
  deriving DecidableEq, Repr

namespace LogFilter

def target : Origin → String
  | .command => "mvirt_tenant"
  | .manager => "mvirt_tenant::manager"
  | .deleter => "mvirt_tenant::deleter"
  | .device => "mvirt_tenant::clients::rest"
  | .ports => "mvirt_tenant::clients::plugin"
  | .fabric => "mvirt_tenant::clients::fabric"

def default : LogFilter :=
  ⟨[⟨some "mvirt_tenant".toList, none, [], Level.info.rank⟩]⟩

/-- Reads a filter. Without any directive only errors are shown. -/
def read? (text : String) : Option LogFilter := do
  let parts := (Text.cut (· == ',') text.toList).filter (!·.isEmpty)
  let directives ← parts.mapM Directive.read?
  if directives.isEmpty then return ⟨[⟨none, none, [], Level.error.rank⟩]⟩
  else return ⟨directives⟩

/-- The filter that the environment gives; without a usable one, the default. -/
def ofEnvironment (text : Option String) : LogFilter :=
  (text.bind read?).getD .default

def deciding? (filter : LogFilter) (target : List Char) : Option Directive :=
  filter.directives.foldl (fun chosen directive =>
    if directive.concerns target && chosen.all directive.overrides then some directive
    else chosen) none

def shows (filter : LogFilter) (event : Event) : Bool :=
  (filter.deciding? (target event.origin).toList).any (event.level.rank ≤ ·.rank)

end LogFilter

end Tenancy.Command
