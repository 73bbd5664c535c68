/-!
Text of bytes that need not be UTF-8: every byte sequence that begins like a character but does not
end like one is read as one replacement character.
-/

namespace Tenancy.Text.Utf8

def replacement : Char := Char.ofNat 0xfffd

/-- A character of which the first bytes were read: its bits so far, how many bytes are missing,
and the range of the next one. -/
structure Partial where
  bits : Nat
  missing : Nat
  low : Nat
  high : Nat

def lead? (byte : Nat) : Option Partial :=
  if 0xc2 ≤ byte && byte ≤ 0xdf then some ⟨byte - 0xc0, 1, 0x80, 0xbf⟩
  else if byte = 0xe0 then some ⟨0, 2, 0xa0, 0xbf⟩
  else if byte = 0xed then some ⟨0xd, 2, 0x80, 0x9f⟩
  else if 0xe1 ≤ byte && byte ≤ 0xef then some ⟨byte - 0xe0, 2, 0x80, 0xbf⟩
  else if byte = 0xf0 then some ⟨0, 3, 0x90, 0xbf⟩
  else if byte = 0xf4 then some ⟨4, 3, 0x80, 0x8f⟩
  else if 0xf1 ≤ byte && byte ≤ 0xf3 then some ⟨byte - 0xf0, 3, 0x80, 0xbf⟩
  else none

def begin (byte : UInt8) : List Char × Option Partial :=
  if byte < 0x80 then ([Char.ofNat byte.toNat], none)
  else match lead? byte.toNat with
  | some opened => ([], some opened)
  | none => ([replacement], none)

def step (opened : Option Partial) (byte : UInt8) : List Char × Option Partial :=
  match opened with
  | none => begin byte
  | some ⟨bits, missing, low, high⟩ =>
      if low ≤ byte.toNat && byte.toNat ≤ high then
        let bits := bits * 64 + (byte.toNat - 0x80)
        if missing ≤ 1 then ([Char.ofNat bits], none)
        else ([], some ⟨bits, missing - 1, 0x80, 0xbf⟩)
      else
        let (characters, next) := begin byte
        (replacement :: characters, next)

def decodeFrom (opened : Option Partial) : List UInt8 → List Char
  | [] => if opened.isSome then [replacement] else []
  | byte :: bytes =>
      let (characters, next) := step opened byte
      characters ++ decodeFrom next bytes

def decode (bytes : List UInt8) : String :=
  String.ofList (decodeFrom none bytes)

end Tenancy.Text.Utf8
