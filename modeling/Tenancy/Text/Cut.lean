/-!
Texts cut into parts at the characters that part them.
-/

namespace Tenancy.Text

/-- The parts between the characters at which a text is cut; there is always one more part than
there are cuts. -/
def cut (isCut : Char → Bool) : List Char → List (List Char)
  | [] => [[]]
  | character :: rest =>
      if isCut character then [] :: cut isCut rest
      else match cut isCut rest with
      | part :: parts => (character :: part) :: parts
      | [] => [[character]]

end Tenancy.Text
