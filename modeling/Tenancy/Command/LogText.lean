import Tenancy.Text.Percent

/-!
Messages of the log as a terminal gets them. Controls with which a message could steer the terminal
are spelled out; tabs, line breaks and other characters stay.
-/

namespace Tenancy.Command.LogText

/-- The controls of ASCII that may take part in a terminal's sequences. -/
def steers (character : Char) : Bool :=
  ['\x07', '\x08', '\x0c', '\x1b', '\x7f'].contains character

def spell (character : Char) : List Char :=
  let point := character.toNat
  if steers character then
    '\\' :: 'x' :: [Text.Percent.hexDigit (point / 16), Text.Percent.hexDigit (point % 16)].map
      Char.toLower
  else if 0x80 ≤ point && point ≤ 0x9f then
    "\\u\x7b".toList ++ Nat.toDigits 16 point ++ ['\x7d']
  else [character]

def write (message : String) : String :=
  String.ofList (message.toList.flatMap spell)

end Tenancy.Command.LogText
