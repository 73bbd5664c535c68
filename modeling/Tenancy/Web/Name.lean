import Tenancy.Text.Punycode
import Tenancy.Unicode.Canonical
import Tenancy.Unicode.Direction
import Tenancy.Unicode.Joining
import Tenancy.Web.Name.Counterpart

/-!
Names of hosts in their written form. A name is read in small letters and in canonical form; its
labels stand between dots. A label with characters beyond ASCII is marked and written in Punycode,
and one that is marked already must be what would be written.
-/

namespace Tenancy.Web.Name

open Unicode (Direction Mark.isMark Order.rank Canonical.form)

def isAscii (text : List Char) : Bool :=
  text.all (·.toNat < 128)

def marker : List Char := "xn--".toList

def isMarked (label : List Char) : Bool :=
  marker.isPrefixOf label

/-- A label as it is meant. What a marked label stands for goes beyond ASCII, is in canonical form
and has no counterpart but itself. -/
def meaning? (label : List Char) : Option (List Char) :=
  if isMarked label then do
    let written := label.drop marker.length
    let meant ← if written.getLast? = some '-' || 2000 < written.length then none
      else Text.Punycode.decode? written
    if isAscii label && !isAscii meant && !isMarked meant && meant.all Permitted.has &&
        Canonical.form meant = meant then some meant
    else none
  else some label

/-- Whether a joiner or its opposite stands where it shapes the text: after a mark that cancels a
vowel, or, for the latter, between letters that would be joined. `before` is in reverse. -/
def shapes (character : Char) (before after : List Char) : Bool :=
  let cancelled := before.head?.any (Order.rank · = 9)
  if character.toNat = 0x200d then cancelled
  else if character.toNat = 0x200c then
    cancelled || (before.dropWhile Unicode.Joining.passes).head?.any Unicode.Joining.joinsNext &&
      (after.dropWhile Unicode.Joining.passes).head?.any Unicode.Joining.joinsPrevious
  else true

def allShape (before : List Char) : List Char → Bool
  | [] => true
  | character :: after => shapes character before after && allShape (character :: before) after

/-- Whether a label may stand in a name: it does not begin with a mark, it is not too long to be
written in Punycode, and its joiners are in place. -/
def isSound (label : List Char) : Bool :=
  isAscii label ||
    !label.head?.any Mark.isMark && label.length ≤ 1000 && allShape [] label

/-- Whether a label reads in one direction only: after marks at its end it ends as it begins, or in
a number, and nothing in it runs the other way. -/
def isOneWay (label : List Char) : Bool :=
  let directions := label.map Direction.of
  let last := (directions.reverse.dropWhile (· = .nonspacing)).head?
  match directions with
  | [] => true
  | .left :: _ =>
      (last = some .left || last = some .number) &&
        directions.all fun direction => direction ≠ .right && direction ≠ .arabicNumber
  | .right :: _ =>
      last.any (fun direction => direction = .right || direction = .number ||
          direction = .arabicNumber) &&
        directions.all (· ≠ .left) &&
        !(directions.contains .number && directions.contains .arabicNumber)
  | _ => false

def runsLeft (character : Char) : Bool :=
  Direction.of character = .right || Direction.of character = .arabicNumber

/-- Whether labels may stand in one name. If any of them runs to the left, each has to read in one
direction. -/
def areSound (labels : List (List Char)) : Bool :=
  labels.all isSound && (labels.all isOneWay || !labels.any (·.any runsLeft))

def writeLabel (label : List Char) : List Char :=
  if isAscii label then label else marker ++ Text.Punycode.encode label

def join (labels : List (List Char)) : List Char :=
  ['.'].intercalate labels

def writeAny? (text : List Char) : Option (List Char) := do
  let read ← Counterpart.ofText? text
  let labels ← (Text.cut (· == '.') (Canonical.form read)).mapM meaning?
  if areSound labels then some (join (labels.map writeLabel)) else none

def lower (text : List Char) : List Char :=
  text.map Char.toLower

/-- The written form of a name. A name in ASCII without marked labels only loses its capitals. -/
def write? (text : List Char) : Option (List Char) :=
  let small := lower text
  if isAscii text && !(Text.cut (· == '.') small).any isMarked then some small
  else writeAny? text

end Tenancy.Web.Name
