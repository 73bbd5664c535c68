/-!
Tokens of JSON text. The text is given as bytes, because a body that came over the wire need not
be Unicode; a string token then carries no text, and is refused only where its text is wanted.
-/

namespace Tenancy.Json

inductive Token
  | openArray
  | closeArray
  | openObject
  | closeObject
  | comma
  | colon
  | null
  | bool (value : Bool)
  | number (spelling : List Char)
  /-- A string, with its text unless that is no Unicode text. -/
  | string (text : Option String)
  deriving DecidableEq, Repr

namespace Token

/-- The bytes of a string token read so far, latest first; `broken` once half a surrogate pair
stood alone. -/
structure Quotation where
  bytes : List UInt8
  broken : Bool

namespace Quotation

def empty : Quotation := ⟨[], false⟩

def push (quotation : Quotation) (byte : UInt8) : Quotation :=
  { quotation with bytes := byte :: quotation.bytes }

def pushChar (quotation : Quotation) (character : Char) : Quotation :=
  { quotation with bytes := (String.utf8EncodeChar character).reverse ++ quotation.bytes }

def spoil (quotation : Quotation) : Quotation :=
  { quotation with broken := true }

def text? (quotation : Quotation) : Option String :=
  if quotation.broken then none
  else String.fromUTF8? ⟨quotation.bytes.reverse.toArray⟩

end Quotation

/-- How far a number has been spelled. Where `complete` holds it may end. -/
inductive NumberPart
  | sign
  | zero
  | whole
  | point
  | fraction
  | exponentMark
  | exponentSign
  | exponent
  deriving DecidableEq, Repr

namespace NumberPart

def complete : NumberPart → Bool
  | zero | whole | fraction | exponent => true
  | sign | point | exponentMark | exponentSign => false

def isDigit (byte : UInt8) : Bool := 48 ≤ byte && byte ≤ 57

def next? (part : NumberPart) (byte : UInt8) : Option NumberPart :=
  let digit := isDigit byte
  let dot := byte == 46
  let mark := byte == 101 || byte == 69
  match part with
  | sign => if byte == 48 then some zero else if digit then some whole else none
  | zero => if dot then some point else if mark then some exponentMark else none
  | whole =>
      if digit then some whole else if dot then some point
      else if mark then some exponentMark else none
  | point => if digit then some fraction else none
  | fraction => if digit then some fraction else if mark then some exponentMark else none
  | exponentMark =>
      if digit then some exponent else if byte == 43 || byte == 45 then some exponentSign
      else none
  | exponentSign => if digit then some exponent else none
  | exponent => if digit then some exponent else none

end NumberPart

inductive Place
  | between
  | word (missing : List UInt8) (token : Token)
  | number (part : NumberPart) (spelling : List Char)
  /-- In a string; `high` is the first half of a surrogate pair that was just read. -/
  | string (quotation : Quotation) (high : Option Nat)
  | escape (quotation : Quotation) (high : Option Nat)
  /-- In a numeric escape of which `missing` digits are still to come. -/
  | code (quotation : Quotation) (high : Option Nat) (missing value : Nat)

structure Scanner where
  place : Place
  /-- The tokens that ended, latest first. -/
  tokens : List Token

namespace Scanner

def start : Scanner := ⟨.between, []⟩

def emit (scanner : Scanner) (token : Token) : Scanner :=
  ⟨.between, token :: scanner.tokens⟩

def blank (byte : UInt8) : Bool :=
  byte == 32 || byte == 9 || byte == 10 || byte == 13

def begin? (scanner : Scanner) (byte : UInt8) : Option Scanner :=
  if blank byte then some { scanner with place := .between }
  else match byte.toNat with
  | 0x5b => some (scanner.emit .openArray)
  | 0x5d => some (scanner.emit .closeArray)
  | 0x7b => some (scanner.emit .openObject)
  | 0x7d => some (scanner.emit .closeObject)
  | 0x2c => some (scanner.emit .comma)
  | 0x3a => some (scanner.emit .colon)
  | 0x22 => some { scanner with place := .string .empty none }
  | 0x6e => some { scanner with place := .word [117, 108, 108] .null }
  | 0x74 => some { scanner with place := .word [114, 117, 101] (.bool true) }
  | 0x66 => some { scanner with place := .word [97, 108, 115, 101] (.bool false) }
  | 0x2d => some { scanner with place := .number .sign ['-'] }
  | 0x30 => some { scanner with place := .number .zero ['0'] }
  | _ =>
      if NumberPart.isDigit byte then
        some { scanner with place := .number .whole [Char.ofUInt8 byte] }
      else none

def settle (quotation : Quotation) : Option Nat → Quotation
  | none => quotation
  | some _ => quotation.spoil

/-- The string after a numeric escape: a character, or one half of a surrogate pair. -/
def pushCode (quotation : Quotation) (high : Option Nat) (value : Nat) : Place :=
  match high with
  | some first =>
      if 0xdc00 ≤ value && value < 0xe000 then
        .string (quotation.pushChar
          (Char.ofNat (0x10000 + (first - 0xd800) * 0x400 + (value - 0xdc00)))) none
      else .string quotation.spoil none
  | none =>
      if 0xd800 ≤ value && value < 0xdc00 then .string quotation (some value)
      else if 0xdc00 ≤ value && value < 0xe000 then .string quotation.spoil none
      else .string (quotation.pushChar (Char.ofNat value)) none

def escaped? (byte : UInt8) : Option Char :=
  match byte.toNat with
  | 0x22 => some '"'
  | 0x5c => some '\\'
  | 0x2f => some '/'
  | 0x62 => some '\x08'
  | 0x66 => some '\x0c'
  | 0x6e => some '\n'
  | 0x72 => some '\r'
  | 0x74 => some '\t'
  | _ => none

def hexValue? (byte : UInt8) : Option Nat :=
  let code := byte.toNat
  if 48 ≤ code && code ≤ 57 then some (code - 48)
  else if 97 ≤ code && code ≤ 102 then some (code - 87)
  else if 65 ≤ code && code ≤ 70 then some (code - 55)
  else none

def step (scanner : Scanner) (byte : UInt8) : Option Scanner :=
  match scanner.place with
  | .between => scanner.begin? byte
  | .word missing token =>
      match missing with
      | [] => (scanner.emit token).begin? byte
      | [last] => if byte == last then some (scanner.emit token) else none
      | letter :: rest =>
          if byte == letter then some { scanner with place := .word rest token } else none
  | .number part spelling =>
      match part.next? byte with
      | some next => some { scanner with place := .number next (Char.ofUInt8 byte :: spelling) }
      | none =>
          if part.complete then (scanner.emit (.number spelling.reverse)).begin? byte else none
  | .string quotation high =>
      if byte == 0x22 then some (scanner.emit (.string (settle quotation high).text?))
      else if byte == 0x5c then some { scanner with place := .escape quotation high }
      else if byte < 0x20 then none
      else some { scanner with place := .string ((settle quotation high).push byte) none }
  | .escape quotation high =>
      if byte == 0x75 then some { scanner with place := .code quotation high 4 0 }
      else (escaped? byte).map fun character =>
        { scanner with place := .string ((settle quotation high).pushChar character) none }
  | .code quotation high missing value =>
      (hexValue? byte).map fun digit =>
        let value := 16 * value + digit
        if missing ≤ 1 then { scanner with place := pushCode quotation high value }
        else { scanner with place := .code quotation high (missing - 1) value }

def finish? (scanner : Scanner) : Option (List Token) :=
  match scanner.place with
  | .between => some scanner.tokens.reverse
  | .number part spelling =>
      if part.complete then some (scanner.emit (.number spelling.reverse)).tokens.reverse
      else none
  | _ => none

end Scanner

def scan? (bytes : List UInt8) : Option (List Token) :=
  (bytes.foldlM Scanner.step Scanner.start).bind Scanner.finish?

end Token

end Tenancy.Json
