import Tenancy.Json.Token
import Tenancy.Json.Value

/-!
JSON text as a tree. A tree may say more than a value: a number of any size as it is spelled, a
string that is no Unicode text, a member twice.
-/

namespace Tenancy.Json

inductive Node
  | null
  | bool (value : Bool)
  | number (spelling : List Char)
  | string (text : Option String)
  | array (items : List Node)
  | object (members : List (Option String × Node))
  deriving Repr

namespace Node

/-- An array or object that is still open, with what it holds so far, latest first. -/
inductive Frame
  | array (items : List Node)
  | object (members : List (Option String × Node)) (key : Option String)

inductive Expectation
  | value
  | firstItem
  | firstKey (members : List (Option String × Node))
  | key (members : List (Option String × Node))
  | colon (members : List (Option String × Node)) (key : Option String)
  | after (value : Node)

structure Builder where
  frames : List Frame
  expectation : Expectation

namespace Builder

def start : Builder := ⟨[], .value⟩

def single? : Token → Option Node
  | .null => some .null
  | .bool value => some (.bool value)
  | .number spelling => some (.number spelling)
  | .string text => some (.string text)
  | _ => none

def begin? (builder : Builder) (token : Token) : Option Builder :=
  match token with
  | .openArray => some { builder with expectation := .firstItem }
  | .openObject => some { builder with expectation := .firstKey [] }
  | other => (single? other).map fun node => { builder with expectation := .after node }

def resume? (frames : List Frame) (value : Node) (token : Token) : Option Builder :=
  match frames, token with
  | .array items :: rest, .comma => some ⟨.array (value :: items) :: rest, .value⟩
  | .array items :: rest, .closeArray => some ⟨rest, .after (.array (value :: items).reverse)⟩
  | .object members key :: rest, .comma => some ⟨rest, .key ((key, value) :: members)⟩
  | .object members key :: rest, .closeObject =>
      some ⟨rest, .after (.object ((key, value) :: members).reverse)⟩
  | _, _ => none

/-- Takes one token in; `none` where no value goes on with it. -/
def step (builder : Builder) (token : Token) : Option Builder :=
  match builder.expectation with
  | .value => builder.begin? token
  | .firstItem =>
      if token = .closeArray then some { builder with expectation := .after (.array []) }
      else ({ builder with frames := .array [] :: builder.frames } : Builder).begin? token
  | .firstKey members =>
      match token with
      | .closeObject => some { builder with expectation := .after (.object members.reverse) }
      | .string key => some { builder with expectation := .colon members key }
      | _ => none
  | .key members =>
      match token with
      | .string key => some { builder with expectation := .colon members key }
      | _ => none
  | .colon members key =>
      if token = .colon then some ⟨.object members key :: builder.frames, .value⟩ else none
  | .after value => resume? builder.frames value token

def finish? (builder : Builder) : Option Node :=
  match builder.frames, builder.expectation with
  | [], .after value => some value
  | _, _ => none

end Builder

def ofTokens? (tokens : List Token) : Option Node :=
  (tokens.foldlM Builder.step Builder.start).bind Builder.finish?

def read? (bytes : List UInt8) : Option Node :=
  (Token.scan? bytes).bind ofTokens?

def readText? (text : String) : Option Node :=
  read? text.toUTF8.toList

def text? : Node → Option String
  | .string text => text
  | _ => none

def bool? : Node → Option Bool
  | .bool value => some value
  | _ => none

def items? : Node → Option (List Node)
  | .array items => some items
  | _ => none

/-- A whole number below `bound` that is spelled with digits only. -/
def natBelow? (bound : Nat) : Node → Option Nat
  | .number spelling =>
      if spelling.all Char.isDigit then
        let value := spelling.foldl (fun value digit => 10 * value + (digit.toNat - 48)) 0
        if value < bound then some value else none
      else none
  | _ => none

/-- An absent value is written as null. -/
def optional? (decode : Node → Option α) : Node → Option (Option α)
  | .null => some none
  | node => (decode node).map some

def member? (node : Node) (name : String) : Option Node :=
  match node with
  | .object members => members.lookup (some name)
  | _ => none

/-- The number that a spelling means, as a mantissa and an exponent of ten. -/
def decimal (spelling : List Char) : Int × Int :=
  let significand := spelling.takeWhile fun character => character ≠ 'e' && character ≠ 'E'
  let power := (spelling.drop (significand.length + 1)).filter (· ≠ '+')
  let fraction := (significand.dropWhile (· ≠ '.')).drop 1
  let whole (digits : List Char) : Int :=
    digits.foldl (fun value digit => 10 * value + (digit.toNat - 48 : Nat)) 0
  let signed (digits : List Char) : Int :=
    match digits with
    | '-' :: rest => -whole rest
    | rest => whole rest
  (signed (significand.filter (· ≠ '.')), signed power - fraction.length)

mutual

def value? : Node → Option Json
  | .null => some .null
  | .bool value => some (.bool value)
  | .number spelling => some (.number (decimal spelling).1 (decimal spelling).2)
  | .string text => text.map .string
  | .array items => (itemValues? items).map .array
  | .object members => (memberValues? members).map .object

def itemValues? : List Node → Option (List Json)
  | [] => some []
  | item :: items => do return (← value? item) :: (← itemValues? items)

def memberValues? : List (Option String × Node) → Option (List (String × Json))
  | [] => some []
  | (name, node) :: members => do
      return (← name, ← value? node) :: (← memberValues? members)

end

end Node

end Tenancy.Json
