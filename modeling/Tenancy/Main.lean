import Tenancy.Command.LogFilter
import Tenancy.Command.LogText
import Tenancy.Command.Session
import Tenancy.Web.Script

/-!
The command. It speaks HTTP through whoever runs it: every request is written to standard output as
a line of JSON, and the line of JSON that is then read from standard input is its response, with
members `status` and `body`; a line without a status says that none came. Events go to standard
error.
-/

namespace Tenancy.Main

open Json (Node)
open Web (Http HttpRequest Response)

def requestLine (request : HttpRequest) : Json :=
  .object ([("method", .string request.method.text), ("url", .string request.url.write)] ++
    (request.credentials.map fun account =>
      ("authorization", .string (Web.basicAuthorization account))) ++
    request.body.toList.map fun body => ("body", body))

def responseOf? (line : String) : Option Response := do
  let node ← Node.readText? line
  let status ← (← node.member? "status").natBelow? 1000
  let body := ((node.member? "body").bind Node.text?).getD ""
  return ⟨status, body.toUTF8.toList, true⟩

def showEvent (filter : Command.LogFilter) (event : Event) : IO Unit := do
  if filter.shows event then
    (← IO.getStderr).putStrLn
      (event.level.text ++ " " ++ Command.LogFilter.target event.origin ++ ": " ++
        Command.LogText.write event.message)

def exchange (request : HttpRequest) : IO (Option Response) := do
  let output ← IO.getStdout
  output.putStrLn (requestLine request).render
  output.flush
  return responseOf? (← (← IO.getStdin).getLine)

def perform {α : Type} (filter : Command.LogFilter) : Program Http α → IO α
  | .done result => return result
  | .write event next => do
      showEvent filter event
      perform filter next
  | .ask request next => do
      let response ← exchange request
      perform filter (next response)
  | .pause milliseconds next => do
      IO.sleep (UInt32.ofNat (min milliseconds (UInt32.size - 1)))
      perform filter (next false)
  | .look next => perform filter (next false)

def performAll {α : Type} (filter : Command.LogFilter) : List (Program Http α) → IO (List α)
  | [] => return []
  | program :: programs => do
      let result ← perform filter program
      return result :: (← performAll filter programs)

/-- Does the work; programs that may run side by side are run in turn. -/
def carryOut {α β : Type} (filter : Command.LogFilter) : Undertaking Http β α → IO α
  | .alone program => perform filter program
  | .together _ programs conclude => do
      perform filter (conclude (← performAll filter programs))

def run (arguments : List String) : IO UInt32 := do
  let username ← IO.getEnv "MVIRT_TENANT_USERNAME"
  let password ← IO.getEnv "MVIRT_TENANT_PASSWORD"
  let environment (name : String) : Option String :=
    if name = "MVIRT_TENANT_USERNAME" then username else password
  let filter := Command.LogFilter.ofEnvironment (← IO.getEnv "RUST_LOG")
  match Command.read environment arguments with
  | .error .misuse =>
      (← IO.getStderr).putStr Command.usage
      return 2
  | .error .help =>
      (← IO.getStdout).putStr Command.usage
      return 0
  | .error .version =>
      (← IO.getStdout).putStr Command.version
      return 0
  | .ok options =>
      for event in options.opening do showEvent filter event
      match ← carryOut filter options.work with
      | .ok () => return 0
      | .error failed =>
          (← IO.getStderr).putStr failed.report
          return 1

end Tenancy.Main

def main (arguments : List String) : IO UInt32 :=
  Tenancy.Main.run arguments
