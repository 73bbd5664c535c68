import Mathlib.Data.List.Forall2
import Tenancy.Json.Node

/-!
The grammar of JSON, apart from the scanner: how each token is written, that blanks may stand around
and between tokens, and which tokens a tree consists of.
-/

namespace Tenancy.Json

namespace Token

def ascii (text : String) : List UInt8 := text.toList.map Char.toUInt8

/-- What a part of a string means: a byte or a character of its text, or a unit of UTF-16. -/
inductive Piece
  | plain (byte : UInt8)
  | escaped (character : Char)
  | unit (value : Nat)

namespace Piece

inductive Written : Piece → List UInt8 → Prop
  | plain {byte : UInt8} (visible : 0x20 ≤ byte) (unquoted : byte ≠ 0x22)
      (unescaped : byte ≠ 0x5c) : Written (.plain byte) [byte]
  | escaped {letter : UInt8} {character : Char}
      (stands : Scanner.escaped? letter = some character) :
      Written (.escaped character) [0x5c, letter]
  | unit {first second third fourth : UInt8} {a b c d : Nat}
      (one : Scanner.hexValue? first = some a) (two : Scanner.hexValue? second = some b)
      (three : Scanner.hexValue? third = some c) (four : Scanner.hexValue? fourth = some d) :
      Written (.unit (16 * (16 * (16 * a + b) + c) + d)) [0x5c, 0x75, first, second, third, fourth]

def IsHigh (value : Nat) : Prop := 0xd800 ≤ value ∧ value < 0xdc00

def IsLow (value : Nat) : Prop := 0xdc00 ≤ value ∧ value < 0xe000

instance (value : Nat) : Decidable (IsHigh value) := inferInstanceAs (Decidable (_ ∧ _))

instance (value : Nat) : Decidable (IsLow value) := inferInstanceAs (Decidable (_ ∧ _))

def pair (high low : Nat) : Char :=
  Char.ofNat (0x10000 + (high - 0xd800) * 0x400 + (low - 0xdc00))

def meaning? : List Piece → Option (List UInt8)
  | [] => some []
  | .plain byte :: rest => (meaning? rest).map (byte :: ·)
  | .escaped character :: rest => (meaning? rest).map (String.utf8EncodeChar character ++ ·)
  | .unit first :: rest =>
      if IsHigh first then
        match rest with
        | .unit second :: rest =>
            if IsLow second then
              (meaning? rest).map (String.utf8EncodeChar (pair first second) ++ ·)
            else none
        | _ => none
      else if IsLow first then none
      else (meaning? rest).map (String.utf8EncodeChar (Char.ofNat first) ++ ·)

section

variable {value low : Nat}

@[simp] theorem meaning?_nil : meaning? [] = some [] := rfl

@[simp] theorem meaning?_plain (byte : UInt8) (rest : List Piece) :
    meaning? (.plain byte :: rest) = (meaning? rest).map (byte :: ·) := rfl

@[simp] theorem meaning?_escaped (character : Char) (rest : List Piece) :
    meaning? (.escaped character :: rest) =
      (meaning? rest).map (String.utf8EncodeChar character ++ ·) := rfl

theorem meaning?_scalar (isHigh : ¬ IsHigh value) (isLow : ¬ IsLow value) (rest : List Piece) :
    meaning? (.unit value :: rest) =
      (meaning? rest).map (String.utf8EncodeChar (Char.ofNat value) ++ ·) := by
  rw [meaning?.eq_def]
  simp only [isHigh, isLow, if_false]

theorem meaning?_low (isLow : IsLow value) (rest : List Piece) :
    meaning? (.unit value :: rest) = none := by
  have isHigh : ¬ IsHigh value := fun isHigh => Nat.not_le.mpr isHigh.2 isLow.1
  rw [meaning?.eq_def]
  simp only [isHigh, isLow, if_false, if_true]

theorem meaning?_pair (isHigh : IsHigh value) (isLow : IsLow low) (rest : List Piece) :
    meaning? (.unit value :: .unit low :: rest) =
      (meaning? rest).map (String.utf8EncodeChar (pair value low) ++ ·) := by
  rw [meaning?.eq_def]
  simp only [isHigh, isLow, if_true]

theorem meaning?_high (isHigh : IsHigh value) (rest : List Piece)
    (alone : ∀ low after, rest = .unit low :: after → ¬ IsLow low) :
    meaning? (.unit value :: rest) = none := by
  rw [meaning?.eq_def]
  simp only [isHigh, if_true]
  split
  next low after => exact if_neg (alone low after rfl)
  next => rfl

end

def text? (pieces : List Piece) : Option String :=
  (meaning? pieces).bind fun bytes => String.fromUTF8? ⟨bytes.toArray⟩

end Piece

def Digits (bytes : List UInt8) : Prop := bytes ≠ [] ∧ ∀ byte ∈ bytes, NumberPart.isDigit byte

structure Numeral where
  sign : List UInt8
  whole : List UInt8
  fraction : List UInt8
  exponent : List UInt8
  signed : sign = [] ∨ sign = ascii "-"
  counted : Digits whole
  unpadded : whole.head? = some 48 → whole = ascii "0"
  divided : fraction = [] ∨ ∃ digits, Digits digits ∧ fraction = ascii "." ++ digits
  raised : exponent = [] ∨ ∃ mark sign digits, (mark = ascii "e" ∨ mark = ascii "E") ∧
    (sign = [] ∨ sign = ascii "+" ∨ sign = ascii "-") ∧ Digits digits ∧
      exponent = mark ++ sign ++ digits

def Numeral.bytes (numeral : Numeral) : List UInt8 :=
  numeral.sign ++ numeral.whole ++ numeral.fraction ++ numeral.exponent

inductive Lexeme : List UInt8 → Token → Prop
  | openArray : Lexeme (ascii "[") .openArray
  | closeArray : Lexeme (ascii "]") .closeArray
  | openObject : Lexeme (ascii "\x7b") .openObject
  | closeObject : Lexeme (ascii "\x7d") .closeObject
  | comma : Lexeme (ascii ",") .comma
  | colon : Lexeme (ascii ":") .colon
  | null : Lexeme (ascii "null") .null
  | true : Lexeme (ascii "true") (.bool true)
  | false : Lexeme (ascii "false") (.bool false)
  | number (numeral : Numeral) :
      Lexeme numeral.bytes (.number (numeral.bytes.map Char.ofUInt8))
  | string {pieces : List Piece} {written : List (List UInt8)}
      (each : List.Forall₂ Piece.Written pieces written) :
      Lexeme (ascii "\"" ++ written.flatten ++ ascii "\"") (.string (Piece.text? pieces))

def Blank (bytes : List UInt8) : Prop := ∀ byte ∈ bytes, Scanner.blank byte

inductive Spread : List (List UInt8) → List UInt8 → Prop
  | nil {blanks : List UInt8} (blank : Blank blanks) : Spread [] blanks
  | cons {blanks lexeme text : List UInt8} {lexemes : List (List UInt8)} (blank : Blank blanks)
      (rest : Spread lexemes text) : Spread (lexeme :: lexemes) (blanks ++ lexeme ++ text)

end Token

namespace Node

mutual

def tokens : Node → List Token
  | .null => [.null]
  | .bool value => [.bool value]
  | .number spelling => [.number spelling]
  | .string text => [.string text]
  | .array items => .openArray :: (itemTokens items ++ [.closeArray])
  | .object members => .openObject :: (memberTokens members ++ [.closeObject])

def itemTokens : List Node → List Token
  | [] => []
  | [item] => item.tokens
  | item :: next :: rest => item.tokens ++ .comma :: itemTokens (next :: rest)

def memberTokens : List (Option String × Node) → List Token
  | [] => []
  | [(name, value)] => .string name :: .colon :: value.tokens
  | (name, value) :: next :: rest =>
      .string name :: .colon :: (value.tokens ++ .comma :: memberTokens (next :: rest))

end

def Spells (text : List UInt8) (node : Node) : Prop :=
  ∃ lexemes, List.Forall₂ Token.Lexeme lexemes node.tokens ∧ Token.Spread lexemes text

end Node

end Tenancy.Json
