import Tenancy.Command.Pattern
import Tenancy.Text.Cut
import Tenancy.Unicode.Alphanumeric
import Tenancy.Unicode.Blank

/-!
Directives of a log filter. A directive names a target, a span with fields in brackets, and after an
equals sign a level; a level may also stand alone. Events here have no span around them and no
field but their message.
-/

namespace Tenancy.Command

/-- A field that an event or its span has to have, perhaps with a value that matches. -/
structure Field where
  name : List Char
  value : Option (List Char)
  deriving DecidableEq, Repr

/-- Shows events up to a rank, of those that it concerns; rank zero shows none. -/
structure Directive where
  target : Option (List Char)
  span : Option (List Char)
  fields : List Field
  rank : Nat
  deriving DecidableEq, Repr

namespace Field

def isDecimal (text : List Char) : Bool :=
  let whole := text.takeWhile Char.isDigit
  let afterWhole := text.drop whole.length
  let fraction :=
    if afterWhole.head? = some '.' then (afterWhole.drop 1).takeWhile Char.isDigit else []
  let rest :=
    if afterWhole.head? = some '.' then afterWhole.drop (fraction.length + 1) else afterWhole
  let exponent := if rest.drop 1 |>.head?.any "+-".toList.contains then rest.drop 2 else rest.drop 1
  !(whole.isEmpty && fraction.isEmpty) &&
    (rest.isEmpty || rest.head?.any "eE".toList.contains && !exponent.isEmpty &&
      exponent.all Char.isDigit)

def isNumber (text : List Char) : Bool :=
  ["inf", "infinity", "nan"].contains (String.ofList (text.map Char.toLower)) || isDecimal text

/-- A value is a number or a pattern, and only a number may begin with a plus sign. -/
def isValue (text : List Char) : Bool :=
  match text with
  | '+' :: number => isNumber number
  | _ => Pattern.isSound text

/-- A field's name, with its value after an equals sign; another one ends the value. -/
def read? (text : List Char) : Option Field :=
  match Text.cut (· == '=') text with
  | [name] => if name.isEmpty then none else some ⟨name, none⟩
  | name :: value :: _ => if isValue value then some ⟨name, some value⟩ else none
  | [] => none

end Field

namespace Directive

/-- A level by its name, in any case, or by its rank. -/
def rank? (text : List Char) : Option Nat :=
  match String.ofList (text.map Char.toLower) with
  | "off" => some 0
  | "error" => some 1
  | "warn" => some 2
  | "info" => some 3
  | "debug" => some 4
  | "trace" => some 5
  | _ =>
      let digits := if text.head? = some '+' then text.drop 1 else text
      if digits.isEmpty || !digits.all Char.isDigit then none
      else (Text.numberOf? 10 digits).filter (· ≤ 5)

inductive Part
  | start
  | word
  | span (since : Nat)
  | field (since : Nat)
  | fields
  | closed
  | level (since : Nat)

def slice (text : List Char) (since place : Nat) : List Char :=
  (text.take place).drop since

/-- Reads the character at a place. Only the first one is restricted: it is a bracket, a letter, a
number, or one of three signs. -/
def step (text : List Char) (reading : Part × Directive) (entry : Char × Nat) :
    Option (Part × Directive) :=
  let (part, directive) := reading
  let (character, place) := entry
  match part with
  | .start =>
      if character = '[' then some (.span (place + 1), directive)
      else if "-:_".toList.contains character || Unicode.Alphanumeric.has character then
        some (.word, directive)
      else none
  | .word =>
      let named := { directive with target := some (text.take place) }
      if character = '=' then some (.level (place + 1), named)
      else if character = '[' then some (.span (place + 1), named)
      else some reading
  | .span since =>
      let name := slice text since place
      if character = ']' then some (.closed, { directive with span := some name })
      else if character = '\x7b' then
        some (.field (place + 1),
          { directive with span := if name.isEmpty then none else some name })
      else some reading
  | .field since =>
      if character = '\x7d' then
        (Field.read? (slice text since place)).map fun field =>
          (.fields, { directive with fields := directive.fields ++ [field] })
      else some reading
  | .fields => if character = ']' then some (.closed, directive) else none
  | .closed => if character = '=' then some (.level (place + 1), directive) else none
  | .level _ => some reading

/-- What was read when the text ends. A word alone is a level if it can be one. -/
def finish (text : List Char) : Part × Directive → Option Directive
  | (.word, directive) =>
      match rank? text with
      | some rank => some { directive with rank }
      | none => some { directive with target := some text }
  | (.level since, directive) =>
      let level := text.drop since
      if level.isEmpty then some directive
      else (rank? level).map fun rank => { directive with rank }
  | (.closed, directive) => some directive
  | _ => none

/-- Reads a directive; without a level it shows all. White space around it is passed over, but places
are counted as if the text began without it, so what stands before a directive shifts its parts. -/
def read? (text : List Char) : Option Directive := do
  finish text (← (Unicode.Blank.trim text).zipIdx.foldlM (step text) (.start, ⟨none, none, [], 5⟩))

def concerns (directive : Directive) (target : List Char) : Bool :=
  directive.span.isNone && directive.fields.all (· = ⟨"message".toList, none⟩) &&
    directive.target.all (·.isPrefixOf target)

/-- How closely a directive describes events: first by its target, then by its fields. -/
def closeness (directive : Directive) : Nat × Nat :=
  ((directive.target.map (·.length + 1)).getD 0, directive.fields.length)

/-- Whether a directive decides where another would; of two equals it is the later one. -/
def overrides (directive other : Directive) : Bool :=
  let (target, fields) := directive.closeness
  let (otherTarget, otherFields) := other.closeness
  otherTarget < target || otherTarget = target && otherFields ≤ fields

end Directive

end Tenancy.Command
