import Tenancy.Json.Node

/-!
Records in JSON. A record is written as an object, whose members may come in any order and beside
unknown ones, or as an array of its fields in the order of their declaration.
-/

namespace Tenancy.Json

structure Field where
  name : String
  optional : Bool
  deriving DecidableEq, Repr

/-- The fields of a record; a closed record refuses members that it does not know. -/
structure Layout where
  fields : List Field
  closed : Bool
  deriving DecidableEq, Repr

namespace Layout

def knows (layout : Layout) (name : String) : Bool :=
  layout.fields.any fun field => field.name == name

def fromMembers? (fields : List Field) (members : List (String × Node)) :
    Option (List (Option Node)) :=
  fields.mapM fun field =>
    match (members.filter fun member => member.1 == field.name).map (·.2) with
    | [] => if field.optional then some none else none
    | [value] => some (some value)
    | _ => none

/-- The values of the fields from an array: only optional ones may be missing at its end. -/
def fromItems? : List Field → List Node → Option (List (Option Node))
  | [], [] => some []
  | [], _ :: _ => none
  | field :: fields, [] =>
      if field.optional then (fromItems? fields []).map (none :: ·) else none
  | _ :: fields, item :: items => (fromItems? fields items).map (some item :: ·)

/-- The values of a record's fields, in the order of declaration. Every name must be Unicode text,
and a known one must not come twice. -/
def values? (layout : Layout) : Node → Option (List (Option Node))
  | .array items => fromItems? layout.fields items
  | .object members => do
      let named ← members.mapM fun member => member.1.map (·, member.2)
      if layout.closed && !named.all (layout.knows ·.1) then none
      else fromMembers? layout.fields named
  | _ => none

end Layout

end Tenancy.Json
