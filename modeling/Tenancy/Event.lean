/-!
Log events: how grave one is, which part of the library wrote it, and its text.
-/

namespace Tenancy

inductive Level
  | error
  | warn
  | info
  | debug
  | trace
  deriving DecidableEq, Repr

namespace Level

def text : Level → String
  | error => "ERROR"
  | warn => "WARN"
  | info => "INFO"
  | debug => "DEBUG"
  | trace => "TRACE"

/-- The graver a level, the lower its rank. -/
def rank : Level → Nat
  | error => 1
  | warn => 2
  | info => 3
  | debug => 4
  | trace => 5

end Level

inductive Origin
  | command
  | manager
  | deleter
  | device
  | ports
  | fabric
  deriving DecidableEq, Repr

structure Event where
  level : Level
  origin : Origin
  message : String
  deriving DecidableEq, Repr

end Tenancy
