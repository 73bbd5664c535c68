import Tenancy.Text.Number

/-!
Search patterns, as far as it takes to tell whether a text is one. Classes of characters beyond those
written out and letters of either case are not known to them, and no pattern counts repetitions.
-/

namespace Tenancy.Command.Pattern

inductive Token
  | literal (character : Char)
  /-- A character that means what its place makes of it. -/
  | mark (character : Char)
  | edge
  /-- What opens a set, with the members that would close or divide it anywhere else. -/
  | openSet
  deriving DecidableEq, Repr

/-- How much of what opens a set was read. -/
inductive Opening
  | none
  | bracket
  | negated
  | member
  deriving DecidableEq, Repr

def coded? (digits : List Char) : Option Token :=
  (Text.numberOf? 16 digits).bind fun point =>
    if point.isValidChar then some (.literal (Char.ofNat point)) else none

def escaped? (character : Char) : Option Token :=
  if character = 'A' || character = 'z' then some .edge
  else if "aftnrv".toList.contains character then some (.literal character)
  else if character.isAlphanum || character = '<' || character = '>' || 128 ≤ character.toNat then
    Option.none
  else some (.literal character)

def tokens? (opening : Opening) : List Char → Option (List Token)
  | [] => some []
  | ['\\'] => Option.none
  | '\\' :: 'x' :: first :: second :: rest => do
      return (← coded? [first, second]) :: (← tokens? .none rest)
  | '\\' :: 'u' :: first :: second :: third :: fourth :: rest => do
      return (← coded? [first, second, third, fourth]) :: (← tokens? .none rest)
  | '\\' :: character :: rest => do
      return (← escaped? character) :: (← tokens? .none rest)
  | '[' :: rest => (tokens? .bracket rest).map (.openSet :: ·)
  | character :: rest =>
      if character = '^' && opening = .bracket then tokens? .negated rest
      else if character = '-' && opening ≠ .none then tokens? .member rest
      else if character = ']' && (opening = .bracket || opening = .negated) then
        tokens? .none rest
      else (tokens? .none rest).map (.mark character :: ·)

/-- Where in a pattern a check stands. -/
inductive Place
  /-- Outside of sets; `repeatable` after something that may be repeated. -/
  | text (repeatable : Bool)
  /-- Among the switches of a group, the latest first. -/
  | switches (read : List Char)
  /-- In the name of a group, the latest character first. -/
  | name (read : List Char)
  /-- In a set within `outer` others; `low` is the last member, if it may begin a range. -/
  | set (outer : Nat) (low : Option Char)

def Place.closeSet : Nat → Place
  | 0 => .text true
  | outer + 1 => .set outer none

/-- A switch that may follow those read. The one for letters of either case can only be put off. -/
def isSwitch (read : List Char) (character : Char) : Bool :=
  "imsURux-".toList.contains character && !read.contains character &&
    (character != 'i' || read.contains '-')

def isNamePart (read : List Char) (character : Char) : Bool :=
  character.isAlpha || character = '_' ||
    !read.isEmpty && (character.isDigit || character = '.' || character = ']')

/-- Whether what is left of a pattern closes its open groups and sets, repeats only what can be
repeated and has no range that runs down. -/
def closes (groups : Nat) : Place → List Token → Bool
  | .text _, [] => groups = 0
  | _, [] => false
  | .text _, .mark '(' :: .mark '?' :: rest => closes groups (.switches []) rest
  | .text _, .openSet :: rest => closes groups (.set 0 none) rest
  | .text _, .literal _ :: rest => closes groups (.text true) rest
  | .text _, .edge :: rest => closes groups (.text true) rest
  | .text repeatable, .mark character :: rest =>
      match character with
      | '(' => closes (groups + 1) (.text false) rest
      | ')' => 0 < groups && closes (groups - 1) (.text true) rest
      | '|' => closes groups (.text false) rest
      | '*' | '+' | '?' => repeatable && closes groups (.text true) rest
      | '\x7b' => false
      | _ => closes groups (.text true) rest
  | .switches [], .mark 'P' :: .mark '<' :: rest => closes groups (.name []) rest
  | .switches [], .mark '<' :: rest => closes groups (.name []) rest
  | .switches read, .mark character :: rest =>
      if read.head? = some '-' && (character = ':' || character = ')') then false
      else if character = ':' then closes (groups + 1) (.text false) rest
      else if character = ')' then !read.isEmpty && closes groups (.text false) rest
      else isSwitch read character && closes groups (.switches (character :: read)) rest
  | .name read, .mark character :: rest =>
      if character = '>' then !read.isEmpty && closes (groups + 1) (.text false) rest
      else isNamePart read character && closes groups (.name (character :: read)) rest
  | .set outer (some _), .mark '-' :: .mark ']' :: rest => closes groups (.closeSet outer) rest
  | .set outer _, .mark '-' :: .mark '-' :: rest => closes groups (.set outer none) rest
  | .set outer (some low), .mark '-' :: .mark high :: rest =>
      low ≤ high && closes groups (.set outer none) rest
  | .set outer (some low), .mark '-' :: .literal high :: rest =>
      low ≤ high && closes groups (.set outer none) rest
  | .set outer none, .mark '-' :: rest => closes groups (.set outer (some '-')) rest
  | .set outer _, .mark '&' :: .mark '&' :: rest => closes groups (.set outer none) rest
  | .set outer _, .mark '~' :: .mark '~' :: rest => closes groups (.set outer none) rest
  | .set outer _, .mark ']' :: rest => closes groups (.closeSet outer) rest
  | .set outer _, .openSet :: rest => closes groups (.set (outer + 1) none) rest
  | .set _ (some _), .mark '-' :: _ => false
  | .set outer _, .mark member :: rest => closes groups (.set outer (some member)) rest
  | .set outer _, .literal member :: rest => closes groups (.set outer (some member)) rest
  | _, _ => false

def isSound (text : List Char) : Bool :=
  (tokens? .none text).any (closes 0 (.text false))

end Tenancy.Command.Pattern
