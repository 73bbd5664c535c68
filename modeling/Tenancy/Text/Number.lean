/-!
Numbers spelled in digits to a base of up to 36, in letters of either case.
-/

namespace Tenancy.Text

def digitValue? (base : Nat) (character : Char) : Option Nat :=
  let code := character.toNat
  let value? :=
    if 48 ≤ code && code ≤ 57 then some (code - 48)
    else if 65 ≤ code && code ≤ 90 then some (code - 55)
    else if 97 ≤ code && code ≤ 122 then some (code - 87)
    else none
  value?.filter (· < base)

/-- The number that digits to a base spell; no digits spell zero. -/
def numberOf? (base : Nat) (digits : List Char) : Option Nat :=
  digits.foldlM (fun value character => do
    return base * value + (← digitValue? base character)) 0

end Tenancy.Text
