import Tenancy.Text.Cut
import Tenancy.Text.Number

/-!
Tables of characters. A table is written as rows between blanks, all numbers to base 16: the first
code point; the last one after a hyphen; behind a slash the distance from one to the next; and
after a colon the values that the row gives, with points between them.
-/

namespace Tenancy.Unicode

structure Row where
  first : Nat
  last : Nat
  step : Nat
  values : List Nat
  deriving DecidableEq, Repr

namespace Row

def number (digits : List Char) : Nat :=
  (Text.numberOf? 16 digits).getD 0

def readPoints (text : List Char) (values : List Nat) : Row :=
  match (Text.cut (fun character => character == '-' || character == '/') text).map number with
  | [first] => ⟨first, first, 1, values⟩
  | [first, last] => ⟨first, last, 1, values⟩
  | [first, last, step] => ⟨first, last, step, values⟩
  | _ => ⟨0, 0, 1, values⟩

def read (text : List Char) : Row :=
  match Text.cut (· == ':') text with
  | [points, values] => readPoints points ((Text.cut (· == '.') values).map number)
  | _ => readPoints text []

def has (row : Row) (point : Nat) : Bool :=
  row.first ≤ point && point ≤ row.last && (point - row.first) % row.step == 0

end Row

structure Table where
  rows : List Row
  deriving DecidableEq, Repr

namespace Table

def read (text : String) : Table :=
  ⟨((Text.cut (fun character => character == ' ' || character == '\n') text.toList).filter
    (!·.isEmpty)).map Row.read⟩

def row? (table : Table) (character : Char) : Option Row :=
  table.rows.find? (·.has character.toNat)

def has (table : Table) (character : Char) : Bool :=
  table.rows.any (·.has character.toNat)

end Table

end Tenancy.Unicode
