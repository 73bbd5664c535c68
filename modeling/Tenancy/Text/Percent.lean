/-!
Percent encoding: a character that may not stand for itself is written as its UTF-8 bytes, each as
a percent sign and two digits.
-/

namespace Tenancy.Text.Percent

def hexDigit (digit : Nat) : Char :=
  if digit < 10 then Char.ofNat (48 + digit) else Char.ofNat (55 + digit)

def encodeByte (byte : UInt8) : List Char :=
  ['%', hexDigit (byte.toNat / 16), hexDigit (byte.toNat % 16)]

def encodeChar (keep : Char → Bool) (character : Char) : List Char :=
  if keep character then [character]
  else (String.utf8EncodeChar character).flatMap encodeByte

def encode (keep : Char → Bool) (text : List Char) : List Char :=
  text.flatMap (encodeChar keep)

/-- Whether a character stands for itself where only these are encoded beside controls and what is
beyond ASCII. -/
def keeps (encoded : List Char) (character : Char) : Bool :=
  0x20 ≤ character.toNat && character.toNat ≤ 0x7e && !encoded.contains character

def hexValue? (character : Char) : Option Nat :=
  let code := character.toNat
  if 48 ≤ code && code ≤ 57 then some (code - 48)
  else if 65 ≤ code && code ≤ 70 then some (code - 55)
  else if 97 ≤ code && code ≤ 102 then some (code - 87)
  else none

/-- The bytes that a text stands for. A percent sign without two digits stands for itself. -/
def decode : List Char → List UInt8
  | [] => []
  | '%' :: high :: low :: rest =>
      match hexValue? high, hexValue? low with
      | some first, some second => UInt8.ofNat (16 * first + second) :: decode rest
      | _, _ => 37 :: decode (high :: low :: rest)
  | character :: rest => String.utf8EncodeChar character ++ decode rest

end Tenancy.Text.Percent
