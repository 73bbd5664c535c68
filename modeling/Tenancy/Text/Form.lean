import Tenancy.Text.Percent

/-!
Form encoding, in which the pairs of a query are written: a space is a plus sign, and all but
letters, digits and four marks is percent-encoded.
-/

namespace Tenancy.Text.Form

def plain (character : Char) : Bool :=
  character.isAlphanum || character == '*' || character == '-' || character == '.' ||
    character == '_'

def encodeChar (character : Char) : List Char :=
  if character = ' ' then ['+'] else Percent.encodeChar plain character

def encode (text : String) : List Char :=
  text.toList.flatMap encodeChar

def encodePair (name value : String) : List Char :=
  encode name ++ '=' :: encode value

end Tenancy.Text.Form
