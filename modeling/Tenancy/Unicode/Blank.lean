import Tenancy.Unicode.Table

/-!
White space of all scripts, with the line breaks.
-/

namespace Tenancy.Unicode.Blank

def table : Table :=
  .read "9-D 20 85 A0 1680 2000-200A 2028-2029 202F 205F 3000"

def trim (text : List Char) : List Char :=
  ((text.dropWhile table.has).reverse.dropWhile table.has).reverse

end Tenancy.Unicode.Blank
