import Tenancy.Unicode.Composition
import Tenancy.Unicode.Order

/-!
The canonical form of a text: marks are in order, and each is composed with its base where there is
a composed character.
-/

namespace Tenancy.Unicode.Canonical

/-- A character taken apart, `depth` times at most. -/
def decompose : (depth : Nat) → Char → List Char
  | 0, character => [character]
  | depth + 1, character =>
      match Composition.parts? character with
      | some (base, mark) => decompose depth base ++ [mark]
      | none => [character]

/-- Composes marks with the last base. The marks that stayed apart are kept, latest first; one of
them bars a later mark of its class or a lower one from the base. -/
def composeFrom (base : Option Char) (kept : List Char) : List Char → List Char
  | [] => base.toList ++ kept.reverse
  | character :: rest =>
      let free := kept.head?.all fun last => Order.rank last < Order.rank character
      match base.bind (Composition.ofParts? · character), free with
      | some composed, true => composeFrom (some composed) kept rest
      | _, _ =>
          if Order.rank character = 0 then
            base.toList ++ kept.reverse ++ composeFrom (some character) [] rest
          else composeFrom base (character :: kept) rest

/-- No composed character holds more than two marks. -/
def form (text : List Char) : List Char :=
  composeFrom none [] (Order.sort (text.flatMap (decompose 2)))

end Tenancy.Unicode.Canonical
