/-!
JSON values and the compact text that is written for them.
-/

namespace Tenancy

/-- A JSON value. An object keeps its members in order, a number is `mantissa * 10 ^ exponent`. -/
inductive Json
  | null
  | bool (value : Bool)
  | number (mantissa exponent : Int)
  | string (text : String)
  | array (items : List Json)
  | object (members : List (String × Json))
  deriving Repr

namespace Json

def ofNat (value : Nat) : Json := .number value 0

def member? (value : Json) (name : String) : Option Json :=
  match value with
  | .object members => members.lookup name
  | _ => none

def text? : Json → Option String
  | .string text => some text
  | _ => none

def hexDigit (digit : Nat) : Char :=
  if digit < 10 then Char.ofNat ('0'.toNat + digit) else Char.ofNat ('a'.toNat + (digit - 10))

/-- Quotes, backslashes and controls are escaped, the common controls by a letter. -/
def escape (character : Char) : List Char :=
  match character with
  | '"' => ['\\', '"']
  | '\\' => ['\\', '\\']
  | '\n' => ['\\', 'n']
  | '\r' => ['\\', 'r']
  | '\t' => ['\\', 't']
  | '\x08' => ['\\', 'b']
  | '\x0c' => ['\\', 'f']
  | other =>
      if other.toNat < 32 then
        ['\\', 'u', '0', '0', hexDigit (other.toNat / 16), hexDigit (other.toNat % 16)]
      else
        [other]

def quote (text : String) : List Char :=
  '"' :: (text.toList.flatMap escape ++ ['"'])

def writeNumber (mantissa exponent : Int) : List Char :=
  let digits := (toString mantissa).toList
  if exponent = 0 then digits else digits ++ 'e' :: (toString exponent).toList

mutual

def write : Json → List Char
  | .null => "null".toList
  | .bool true => "true".toList
  | .bool false => "false".toList
  | .number mantissa exponent => writeNumber mantissa exponent
  | .string text => quote text
  | .array items => '[' :: (writeItems items ++ [']'])
  | .object members => '{' :: (writeMembers members ++ ['}'])

def writeItems : List Json → List Char
  | [] => []
  | [item] => write item
  | item :: next :: rest => write item ++ ',' :: writeItems (next :: rest)

def writeMembers : List (String × Json) → List Char
  | [] => []
  | [(name, value)] => quote name ++ ':' :: write value
  | (name, value) :: next :: rest =>
      quote name ++ ':' :: write value ++ ',' :: writeMembers (next :: rest)

end

def render (value : Json) : String :=
  String.ofList value.write

end Json

end Tenancy
