import Tenancy.Text.Cut
import Tenancy.Text.Number

/-!
Numeric host addresses: how they may be spelled in a URL, and their one written form.
-/

namespace Tenancy.Web

open Text (cut numberOf?)

namespace IPv4

/-- One part of an address: hexadecimal after `0x`, octal after `0`, else decimal. -/
def part? : List Char → Option Nat
  | [] => none
  | '0' :: 'x' :: digits => numberOf? 16 digits
  | '0' :: 'X' :: digits => numberOf? 16 digits
  | '0' :: digits => numberOf? 8 digits
  | digits => numberOf? 10 digits

/-- The parts of a host's name, without the empty one after a final dot. -/
def parts (host : List Char) : List (List Char) :=
  match (cut (· == '.') host).reverse with
  | [] :: last :: rest => (last :: rest).reverse
  | all => all.reverse

/-- A host whose last part is a number is an address or nothing. -/
def isNumeric (host : List Char) : Bool :=
  match (parts host).getLast? with
  | some last => !last.isEmpty && (last.all Char.isDigit || (part? last).isSome)
  | none => false

/-- The value of the parts: each is one byte, but the last fills what is left. -/
def value? : (room : Nat) → List Nat → Option Nat
  | _, [] => none
  | room, [last] => if last < 256 ^ room then some last else none
  | room, part :: rest =>
      if part < 256 then (value? (room - 1) rest).map (part * 256 ^ (room - 1) + ·) else none

def read? (host : List Char) : Option Nat := do
  let numbers ← (parts host).mapM part?
  if numbers.length ≤ 4 then value? 4 numbers else none

def write (address : Nat) : String :=
  String.intercalate "." ([16777216, 65536, 256, 1].map fun unit =>
    toString (address / unit % 256))

end IPv4

namespace IPv6

/-- The two pieces that an address of four decimal bytes fills. -/
def embedded? (text : List Char) : Option (List Nat) := do
  let bytes ← (cut (· == '.') text).mapM fun part =>
    match part with
    | [] => none
    | ['0'] => some 0
    | '0' :: _ => none
    | digits => (numberOf? 10 digits).filter (· < 256)
  match bytes with
  | [first, second, third, fourth] => return [first * 256 + second, third * 256 + fourth]
  | _ => none

def piece? (text : List Char) : Option Nat :=
  if text.isEmpty || 4 < text.length then none else numberOf? 16 text

/-- The pieces of a part without `::`, whose end may be spelled in decimal bytes. -/
def pieces? (text : List Char) : Option (List Nat) :=
  if text.isEmpty then some []
  else
    let parts := cut (· == ':') text
    match parts.getLast? with
    | some last =>
        if '.' ∈ last then do
          return (← parts.dropLast.mapM piece?) ++ (← embedded? last)
        else parts.mapM piece?
    | none => none

def splitGap? : List Char → Option (List Char × List Char)
  | ':' :: ':' :: rest => some ([], rest)
  | character :: rest => (splitGap? rest).map fun (before, after) => (character :: before, after)
  | [] => none

/-- The eight pieces of an address; `::` stands for as many zeros as are missing, at least one. -/
def read? (text : List Char) : Option (List Nat) := do
  match splitGap? text with
  | none =>
      let pieces ← pieces? text
      if pieces.length = 8 then some pieces else none
  | some (before, after) =>
      if '.' ∈ before then none
      else
        let head ← pieces? before
        let tail ← pieces? after
        if head.length + tail.length < 8 then
          some (head ++ List.replicate (8 - head.length - tail.length) 0 ++ tail)
        else none

/-- Start and length of the first longest run of zeros. -/
def longestGap (pieces : List Nat) : Nat × Nat :=
  (List.range pieces.length).foldl (fun (start, length) place =>
    let run := ((pieces.drop place).takeWhile (· = 0)).length
    if length < run then (place, run) else (start, length)) (0, 0)

def writePieces (pieces : List Nat) : String :=
  String.intercalate ":" (pieces.map fun piece => String.ofList (Nat.toDigits 16 piece))

/-- The longest run of at least two zeros is written as `::`. -/
def write (pieces : List Nat) : String :=
  let (start, length) := longestGap pieces
  if length < 2 then writePieces pieces
  else writePieces (pieces.take start) ++ "::" ++ writePieces (pieces.drop (start + length))

end IPv6

end Tenancy.Web
