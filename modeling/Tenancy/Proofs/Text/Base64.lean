import Tenancy.Text.Base64

/-!
Reading of Base64, strict about the alphabet, the padding and the bits that the padding stands for.
What is written is read again.
-/

namespace Tenancy.Text.Base64

def value? (character : Char) : Option Nat :=
  if 'A' ≤ character && character ≤ 'Z' then some (character.toNat - 65)
  else if 'a' ≤ character && character ≤ 'z' then some (character.toNat - 71)
  else if '0' ≤ character && character ≤ '9' then some (character.toNat + 4)
  else if character = '+' then some 62
  else if character = '/' then some 63
  else none

def decodeLast? (high next : Nat) (third : Char) : Option (List UInt8) :=
  if third = '=' then
    let bits := high * 64 + next
    if bits % 16 = 0 then some [.ofNat (bits / 16)] else none
  else do
    let bits := (high * 64 + next) * 64 + (← value? third)
    if bits % 4 = 0 then some [.ofNat (bits / 1024), .ofNat (bits / 4 % 256)] else none

def decode? : List Char → Option (List UInt8)
  | [] => some []
  | first :: second :: third :: fourth :: rest => do
      let high ← value? first
      let next ← value? second
      if rest.isEmpty && fourth = '=' then decodeLast? high next third
      else
        let bits := ((high * 64 + next) * 64 + (← value? third)) * 64 + (← value? fourth)
        let bytes ← decode? rest
        some (.ofNat (bits / 65536) :: .ofNat (bits / 256 % 256) :: .ofNat (bits % 256) :: bytes)
  | _ => none

theorem value?_digit {value : Nat} (low : value < 64) : value? (digit value) = some value := by
  have all : ∀ value < 64, value? (digit value) = some value := by decide
  exact all value low

theorem digit_ne_pad {value : Nat} (low : value < 64) : digit value ≠ '=' := by
  have all : ∀ value < 64, digit value ≠ '=' := by decide
  exact all value low

theorem ofNat_of_eq {byte : UInt8} {value : Nat} (same : value = byte.toNat) :
    UInt8.ofNat value = byte := by
  rw [same, UInt8.ofNat_toNat]

/-- What is written is read as it was. -/
theorem decode?_encode (bytes : List UInt8) : decode? (encode bytes) = some bytes := by
  fun_induction encode bytes with
  | case1 => rfl
  | case2 first bits =>
      have small : first.toNat < 256 := first.toNat_lt
      have whole : bits / 64 * 64 + bits % 64 = bits := by omega
      have padded : bits % 16 = 0 := by omega
      have byte : UInt8.ofNat (bits / 16) = first := ofNat_of_eq (by omega)
      rw [decode?, value?_digit (by omega), value?_digit (by omega)]
      simp [decodeLast?, whole, padded, byte]
  | case3 first second bits =>
      have small : first.toNat < 256 := first.toNat_lt
      have small' : second.toNat < 256 := second.toNat_lt
      have whole : (bits / 4096 * 64 + bits / 64 % 64) * 64 + bits % 64 = bits := by omega
      have padded : bits % 4 = 0 := by omega
      have byte : UInt8.ofNat (bits / 1024) = first := ofNat_of_eq (by omega)
      have byte' : UInt8.ofNat (bits / 4 % 256) = second := ofNat_of_eq (by omega)
      have written : digit (bits % 64) ≠ '=' := digit_ne_pad (by omega)
      rw [decode?, value?_digit (by omega), value?_digit (by omega)]
      simp [decodeLast?, written, value?_digit (show bits % 64 < 64 by omega), whole, padded, byte,
        byte']
  | case4 first second third rest bits ih =>
      have small : first.toNat < 256 := first.toNat_lt
      have small' : second.toNat < 256 := second.toNat_lt
      have small'' : third.toNat < 256 := third.toNat_lt
      have whole : ((bits / 262144 * 64 + bits / 4096 % 64) * 64 + bits / 64 % 64) * 64 +
          bits % 64 = bits := by omega
      have byte : UInt8.ofNat (bits / 65536) = first := ofNat_of_eq (by omega)
      have byte' : UInt8.ofNat (bits / 256 % 256) = second := ofNat_of_eq (by omega)
      have byte'' : UInt8.ofNat (bits % 256) = third := ofNat_of_eq (by omega)
      have written : digit (bits % 64) ≠ '=' := digit_ne_pad (by omega)
      rw [decode?, value?_digit (by omega), value?_digit (by omega)]
      simp [written, value?_digit (show bits / 64 % 64 < 64 by omega),
        value?_digit (show bits % 64 < 64 by omega), whole, byte, byte', byte'', ih]

end Tenancy.Text.Base64
