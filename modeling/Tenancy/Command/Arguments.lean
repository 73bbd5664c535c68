import Tenancy.Cleanup

/-!
The command line: options that hold for all commands, then a command with options of its own.
Arguments are read from left to right. A request for help or for the version ends the reading, and
so does the first argument that is out of place.
-/

namespace Tenancy.Command

/-- An option as it may be given; its name stands after two hyphens. -/
structure Switch where
  name : String
  takesValue : Bool
  repeatable : Bool
  accepts : String → Bool

/-- A number in decimal digits, which may have a plus sign. -/
def unsigned? (bound : Nat) (text : String) : Option Nat :=
  let digits := match text.toList with
    | '+' :: rest => rest
    | all => all
  if digits.isEmpty || !digits.all Char.isDigit then none
  else
    let value := digits.foldl (fun value digit => 10 * value + (digit.toNat - 48)) 0
    if value < bound then some value else none

/-- The same, but a number may have a minus sign as long as it is zero. -/
def signed? (bound : Nat) (text : String) : Option Nat :=
  match text.toList with
  | '-' :: digits =>
      if !digits.isEmpty && digits.all (· == '0') then some 0 else none
  | _ => unsigned? bound text

def attempts? : String → Option Nat := signed? UInt32.size

def count? : String → Option Nat := unsigned? UInt64.size

namespace Switch

def text (name : String) : Switch := ⟨name, true, false, fun _ => true⟩

def flag (name : String) : Switch := ⟨name, false, false, fun _ => true⟩

def number (name : String) (read? : String → Option Nat) : Switch :=
  ⟨name, true, false, fun value => (read? value).isSome⟩

def general : List Switch := [
  ⟨"appliance", true, true, fun _ => true⟩, text "username", text "password",
  text "device-scheme", flag "insecure", text "plugin-endpoint", text "fabric-endpoint",
  text "traffic-group", text "folder-prefix", number "retry-attempts" attempts?,
  number "retry-interval-ms" count?, number "timeout" count?]

def ofCommand? : String → Option (List Switch)
  | "create" => some [text "tenant"]
  | "cleanup" => some [text "tenant", flag "best-effort", number "max-parallel" count?]
  | _ => none

end Switch

inductive Stop
  | misuse
  | help
  | version
  deriving DecidableEq, Repr

/-- The options given so far, in order, a flag with an empty value; and the option whose value was
not looked at yet, with the value if it is there. -/
structure Given where
  values : List (String × String)
  pending : Option (Switch × Option String)

namespace Given

def empty : Given := ⟨[], none⟩

/-- Takes an option in, unless it was given before or its value is of no use. -/
def add (given : Given) (switch : Switch) (value : String) : Except Stop Given :=
  if !switch.repeatable && given.values.any (·.1 == switch.name) then .error .misuse
  else if switch.accepts value then
    .ok { given with values := given.values ++ [(switch.name, value)] }
  else .error .misuse

def settle (given : Given) : Except Stop Given :=
  match given.pending with
  | none => .ok given
  | some (_, none) => .error .misuse
  | some (switch, some value) => ({ given with pending := none } : Given).add switch value

def awaitsValue (given : Given) : Bool :=
  match given.pending with
  | some (_, none) => true
  | _ => false

def value? (given : Given) (name : String) : Option String :=
  given.values.lookup name

def allValues (given : Given) (name : String) : List String :=
  (given.values.filter (·.1 == name)).map (·.2)

end Given

structure Position where
  switches : List Switch
  beforeCommand : Bool

/-- What ends one position of the command line: the end of the arguments, or a command with the
arguments after it. -/
inductive Continuation
  | finished
  | command (name : String) (arguments : List String)

/-- Reads an option by its long name, `value` being what follows an equals sign. -/
def takeLong (position : Position) (given : Given) (name : String) (value : Option String) :
    Except Stop Given := do
  match position.switches.find? (·.name == name) with
  | some switch =>
      match switch.takesValue, value with
      | true, none => return { (← given.settle) with pending := some (switch, none) }
      | true, some value => (← given.settle).add switch value
      | false, none => (← given.settle).add switch ""
      | false, some _ => throw .misuse
  | none =>
      if value.isSome then throw .misuse
      let _ ← given.settle
      if name = "help" then throw .help
      else if name = "version" && position.beforeCommand then throw .version
      else throw .misuse

/-- Reads an option by its letter; there are only those for help and for the version. -/
def takeShort (position : Position) (given : Given) (letter : Char) : Except Stop Given := do
  let _ ← given.settle
  if letter = 'h' then throw .help
  else if letter = 'V' && position.beforeCommand then throw .version
  else throw .misuse

/-- Whether the arguments after the command for help name something to be helped with. -/
def helpTopic (arguments : List String) : Stop :=
  match arguments with
  | [] => .help
  | [name] => if name = "help" || (Switch.ofCommand? name).isSome then .help else .misuse
  | _ => .misuse

def take (position : Position) (given : Given) :
    (arguments : List String) → Except Stop (Given × Continuation)
  | [] => .ok (given, .finished)
  | argument :: rest => do
      if position.beforeCommand && !given.awaitsValue then
        if argument = "help" then throw (helpTopic rest)
        if (Switch.ofCommand? argument).isSome then return (given, .command argument rest)
      match argument.toList with
      | ['-', '-'] =>
          if given.awaitsValue || !rest.isEmpty then throw .misuse else return (given, .finished)
      | '-' :: '-' :: long =>
          let name := String.ofList (long.takeWhile (· != '='))
          let value := match long.dropWhile (· != '=') with
            | [] => none
            | _ :: value => some (String.ofList value)
          take position (← takeLong position given name value) rest
      | '-' :: letter :: _ => take position (← takeShort position given letter) rest
      | _ =>
          match given.pending with
          | some (switch, none) =>
              take position { given with pending := some (switch, some argument) } rest
          | _ => throw .misuse

inductive Job
  | create (tenant : String)
  | cleanup (tenant : String) (policy : Policy)
  deriving DecidableEq, Repr

structure Options where
  appliances : List String
  username : String
  password : String
  deviceScheme : String
  pluginEndpoint : Option String
  fabricEndpoint : Option String
  settings : Settings
  naming : Naming
  /-- Accept certificates that nobody vouches for. -/
  insecure : Bool
  /-- How many seconds a request may take. -/
  timeout : Nat
  job : Job
  deriving DecidableEq, Repr

def job? (name : String) (own : Given) : Option Job := do
  let tenant ← own.value? "tenant"
  if name = "create" then return .create tenant
  else
    let maxParallel ← (own.value? "max-parallel").elim (some 4) count?
    return .cleanup tenant
      (if (own.value? "best-effort").isSome then .bestEffort maxParallel
      else .abortOnFirstFailure)

/-- The options that the arguments and the environment give together. An account may stand in the
environment; an option goes before it. -/
def options? (environment : String → Option String) (general own : Given) (command : String) :
    Option Options := do
  let appliances := general.allValues "appliance"
  if appliances.isEmpty then none
  let username := (general.value? "username" <|> environment "MVIRT_TENANT_USERNAME").getD "admin"
  let password ← general.value? "password" <|> environment "MVIRT_TENANT_PASSWORD"
  let attempts ← (general.value? "retry-attempts").elim
    (some RetryPolicy.default.maxAttempts.toNat) attempts?
  let interval ← (general.value? "retry-interval-ms").elim
    (some RetryPolicy.default.interval.milliseconds) count?
  let timeout ← (general.value? "timeout").elim (some 30) count?
  let retry : RetryPolicy :=
    ⟨UInt32.ofNat attempts, .ofMilliseconds (UInt64.ofNat interval)⟩
  let trafficGroup :=
    (general.value? "traffic-group").getD Settings.default.defaultTrafficGroup
  return {
    appliances, username, password, timeout
    deviceScheme := (general.value? "device-scheme").getD "https"
    pluginEndpoint := general.value? "plugin-endpoint"
    fabricEndpoint := general.value? "fabric-endpoint"
    settings := ⟨trafficGroup, retry⟩
    naming := ((general.value? "folder-prefix").map Naming.mk).getD .default
    insecure := (general.value? "insecure").isSome
    job := ← job? command own }

def read (environment : String → Option String) (arguments : List String) :
    Except Stop Options := do
  match ← take ⟨Switch.general, true⟩ .empty arguments with
  | (_, .finished) => throw .misuse
  | (general, .command name rest) =>
      let (own, _) ← take ⟨(Switch.ofCommand? name).getD [], false⟩ .empty rest
      match options? environment (← general.settle) (← own.settle) name with
      | some options => return options
      | none => throw .misuse

end Tenancy.Command
