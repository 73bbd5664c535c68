import Tenancy.Text.Number

/-!
Punycode: a label with characters beyond ASCII in letters, digits and hyphens. The ASCII characters
come first; the others follow in order of their code points, each as the distance, in insertion
steps, from the one before it, written in digits to a base of 36 whose weights adapt.
-/

namespace Tenancy.Text.Punycode

def digit (value : Nat) : Char :=
  if value < 26 then Char.ofNat (97 + value) else Char.ofNat (22 + value)

def threshold (weight bias : Nat) : Nat :=
  if weight ≤ bias then 1 else min (weight - bias) 26

theorem threshold_pos (weight bias : Nat) : 0 < threshold weight bias := by
  unfold threshold
  split <;> omega

def digits (bias weight distance : Nat) : List Char :=
  if distance < threshold weight bias then [digit distance]
  else
    let base := 36 - threshold weight bias
    let excess := distance - threshold weight bias
    digit (threshold weight bias + excess % base) :: digits bias (weight + 36) (excess / base)
termination_by distance
decreasing_by
  have positive := threshold_pos weight bias
  exact Nat.lt_of_le_of_lt (Nat.div_le_self _ _) (by omega)

/-- Brings a distance into the range in which the bias is computed, counting the steps. -/
def scale (distance steps : Nat) : Nat × Nat :=
  if 455 < distance then scale (distance / 35) (steps + 36) else (distance, steps)
termination_by distance
decreasing_by exact Nat.div_lt_self (by omega) (by omega)

def adapt (distance written : Nat) (first : Bool) : Nat :=
  let damped := if first then distance / 700 else distance / 2
  let (rest, steps) := scale (damped + damped / written) 0
  steps + 36 * rest / (rest + 38)

structure State where
  output : List Char
  distance : Nat
  bias : Nat
  written : Nat

def pass (basic point : Nat) (state : State) (character : Char) : State :=
  if character.toNat < point then { state with distance := state.distance + 1 }
  else if character.toNat = point then
    { output := state.output ++ digits state.bias 36 state.distance
      distance := 0
      bias := adapt state.distance (state.written + 1) (state.written = basic)
      written := state.written + 1 }
  else state

/-- Inserts the characters of each code point in turn, the code points in ascending order. -/
def insertPoints (label : List Char) (basic : Nat) : List Nat → Nat → State → State
  | [], _, state => state
  | point :: points, next, state =>
      let moved := { state with distance := state.distance + (point - next) * (state.written + 1) }
      let passed := label.foldl (pass basic point) moved
      insertPoints label basic points (point + 1) { passed with distance := passed.distance + 1 }

def encode (label : List Char) : List Char :=
  let basic := label.filter (·.toNat < 128)
  let points := ((label.filter (128 ≤ ·.toNat)).map Char.toNat).eraseDups.mergeSort
  let inserted := insertPoints label basic.length points 128 ⟨[], 0, 72, basic.length⟩
  basic ++ (if basic.isEmpty then [] else ['-']) ++ inserted.output

/-- The value of a digit: letters of either case come before the decimal digits. -/
def digitValue? (character : Char) : Option Nat :=
  (Text.digitValue? 36 character).map fun value => (value + 26) % 36

def readDistance? (bias weight unit distance : Nat) : List Char → Option (Nat × List Char)
  | [] => none
  | character :: rest => do
      let value ← digitValue? character
      let limit := threshold weight bias
      if value < limit then some (distance + value * unit, rest)
      else readDistance? bias (weight + 36) (unit * (36 - limit)) (distance + value * unit) rest

theorem readDistance?_shorter {bias weight unit distance result : Nat} {text rest : List Char}
    (found : readDistance? bias weight unit distance text = some (result, rest)) :
    rest.length < text.length := by
  induction text generalizing weight unit distance with
  | nil => simp [readDistance?] at found
  | cons character tail ih =>
      simp only [readDistance?, Option.bind_eq_bind, Option.bind_eq_some_iff] at found
      obtain ⟨value, _, found⟩ := found
      split at found
      · simp only [Option.some.injEq, Prod.mk.injEq] at found
        simp [found.2]
      · exact Nat.lt_succ_of_lt (ih found)

/-- Inserts a character at each distance, counted from where the last one was inserted. Every pass
over the label takes the code point to the next one. -/
def insertAll? (bias point place : Nat) (label text : List Char) : Option (List Char) :=
  if text.isEmpty then some label
  else match found : readDistance? bias 36 1 0 text with
  | none => none
  | some (distance, rest) =>
      let size := label.length + 1
      let next := point + (place + distance) / size
      let position := (place + distance) % size
      if next.isValidChar then
        insertAll? (adapt distance size (place = 0)) next (position + 1)
          (label.insertIdx position (Char.ofNat next)) rest
      else none
termination_by text.length
decreasing_by exact readDistance?_shorter found

/-- The label that a text encodes. What stands before its last hyphen are the ASCII characters; there
is no hyphen without any. -/
def decode? (text : List Char) : Option (List Char) :=
  let inserted := (text.reverse.takeWhile (· != '-')).reverse
  let basic := (text.take (text.length - inserted.length)).dropLast
  insertAll? 72 128 0 basic (if basic.isEmpty then text else inserted)

end Tenancy.Text.Punycode
