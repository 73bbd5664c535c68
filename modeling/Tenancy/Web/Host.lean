import Tenancy.Text.Percent
import Tenancy.Text.Utf8
import Tenancy.Web.Address
import Tenancy.Web.Name

/-!
Hosts of URLs in their written form: names in small letters, addresses in their one spelling.
-/

namespace Tenancy.Web.Host

/-- Characters that no host may have, a name even after decoding. -/
def forbidden (character : Char) : Bool :=
  character.toNat ≤ 0x20 || character.toNat == 0x7f || "#/:<>?@[\\]^|".toList.contains character

/-- A name or an address in the authority of a URL whose scheme is one of the web's. -/
def ofName? (text : List Char) : Option (List Char) := do
  let name ← Name.write? (Text.Utf8.decode (Text.Percent.decode text)).toList
  if name.isEmpty || name.any forbidden || '%' ∈ name then none
  else if IPv4.isNumeric name then (IPv4.read? name).map fun address => (IPv4.write address).toList
  else some name

/-- A host of any other scheme is not interpreted. -/
def opaque? (text : List Char) : Option (List Char) :=
  if text.any fun character => character != '%' && (character == '\x00' ||
      "\t\n\r #/:<>?@[\\]^|".toList.contains character) then none
  else some (Text.Percent.encode (fun character =>
    0x20 ≤ character.toNat && character.toNat ≤ 0x7e) text)

/-- The written form of a host; brackets hold an address of the longer kind. -/
def read? (web : Bool) (text : List Char) : Option (List Char) :=
  match text with
  | '[' :: rest =>
      if rest.getLast? = some ']' then
        (IPv6.read? rest.dropLast).map fun pieces => '[' :: (IPv6.write pieces).toList ++ [']']
      else none
  | _ => if web then ofName? text else opaque? text

end Tenancy.Web.Host
