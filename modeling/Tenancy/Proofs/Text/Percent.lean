import Tenancy.Proofs.Text

/-!
Texts in which a percent sign may stand for itself. Encoding leaves the bytes that a text stands
for, and a text stands for itself exactly if it holds no encoded byte.
-/

namespace Tenancy.Text.Percent

def opensEscape : List Char → Bool
  | '%' :: high :: low :: _ => (hexValue? high).isSome && (hexValue? low).isSome
  | _ => false

def isUnescaped : List Char → Bool
  | [] => true
  | character :: rest => !opensEscape (character :: rest) && isUnescaped rest

section

variable {keep : Char → Bool} {character high low : Char} {rest : List Char}

theorem opensEscape_cons (other : character ≠ '%') : opensEscape (character :: rest) = false := by
  unfold opensEscape
  split
  next same => exact absurd (List.cons.inj same).1 other
  next => rfl

theorem ascii_of_digit (digit : (hexValue? character).isSome) : character.toNat < 128 := by
  refine Nat.lt_of_not_le fun large => ?_
  simp only [hexValue?, Bool.and_eq_true, decide_eq_true_eq] at digit
  rw [if_neg (by omega), if_neg (by omega), if_neg (by omega)] at digit
  exact Bool.false_ne_true digit

theorem opensEscape_of_not_digit (undigit : hexValue? high = none) :
    opensEscape ('%' :: high :: rest) = false := by
  cases rest with
  | nil => rfl
  | cons low rest => rw [opensEscape, undigit]; rfl

theorem exists_of_opensEscape {text : List Char} (escape : opensEscape text) :
    ∃ high low rest byte, text = '%' :: high :: low :: rest ∧
      (hexValue? high).isSome ∧ (hexValue? low).isSome ∧
        ∀ rest, decode ('%' :: high :: low :: rest) = byte :: decode rest := by
  unfold opensEscape at escape
  split at escape
  next high low rest =>
    obtain ⟨first, second⟩ := Bool.and_eq_true_iff.mp escape
    obtain ⟨upper, firstRead⟩ := Option.isSome_iff_exists.mp first
    obtain ⟨lower, secondRead⟩ := Option.isSome_iff_exists.mp second
    exact ⟨high, low, rest, UInt8.ofNat (16 * upper + lower), rfl, first, second,
      fun rest => by rw [decode, firstRead, secondRead]⟩
  next => exact absurd escape Bool.false_ne_true

theorem decode_of_not_opensEscape (plain : opensEscape (character :: rest) = false) :
    decode (character :: rest) = String.utf8EncodeChar character ++ decode rest := by
  by_cases sign : character = '%'
  · subst sign
    obtain _ | ⟨high, _ | ⟨low, rest⟩⟩ := rest
    · rfl
    · rfl
    · rw [decode]
      split
      next first second => simp [opensEscape, first, second] at plain
      next => rfl
  · exact decode_cons sign rest

theorem decode_of_isUnescaped {text : List Char} (plain : isUnescaped text) :
    decode text = text.flatMap String.utf8EncodeChar := by
  induction text with
  | nil => rfl
  | cons character rest ih =>
      rw [isUnescaped, Bool.and_eq_true, Bool.not_eq_true'] at plain
      rw [decode_of_not_opensEscape plain.1, ih plain.2, List.flatMap_cons]

theorem encode_cons_of_keep (kept : keep character) :
    encode keep (character :: rest) = character :: encode keep rest := by
  rw [encode, List.flatMap_cons, encodeChar, if_pos kept]
  rfl

theorem encode_cons_of_not_keep (unkept : keep character = false) :
    encode keep (character :: rest) =
      (String.utf8EncodeChar character).flatMap encodeByte ++ encode keep rest := by
  rw [encode, List.flatMap_cons, encodeChar, if_neg (by simp [unkept])]
  rfl

end

structure Leaves (keep : Char → Bool) : Prop where
  sign : keep '%'
  digits : ∀ character, (hexValue? character).isSome → keep character

namespace Leaves

variable {keep : Char → Bool} (leaves : Leaves keep)
include leaves

theorem encode_head (character : Char) (rest : List Char) :
    ∃ first others, encode keep (character :: rest) = first :: others ∧
      hexValue? first = hexValue? character ∧
        ((hexValue? first).isSome → others = encode keep rest) := by
  cases kept : keep character with
  | true => exact ⟨character, _, encode_cons_of_keep kept, rfl, fun _ => rfl⟩
  | false =>
      have undigit : hexValue? character = none := by
        rw [← Option.not_isSome_iff_eq_none]
        intro digit
        exact Bool.false_ne_true (kept.symm.trans (leaves.digits character digit))
      obtain ⟨byte, bytes, encoded⟩ :=
        List.exists_cons_of_ne_nil (@String.utf8EncodeChar_ne_nil character)
      rw [encode_cons_of_not_keep kept, encoded]
      exact ⟨'%', _, rfl, undigit.symm, nofun⟩

theorem opensEscape_encode (text : List Char) :
    opensEscape ('%' :: encode keep text) = opensEscape ('%' :: text) := by
  obtain _ | ⟨high, rest⟩ := text
  · rfl
  obtain ⟨first, others, encoded, same, next⟩ := leaves.encode_head high rest
  rw [encoded]
  cases digit : hexValue? first with
  | none => rw [opensEscape_of_not_digit digit, opensEscape_of_not_digit (same.symm.trans digit)]
  | some value =>
      rw [next (by rw [digit]; rfl)]
      obtain _ | ⟨low, rest⟩ := rest
      · rfl
      obtain ⟨second, others, encoded, sameSecond, -⟩ := leaves.encode_head low rest
      rw [encoded, opensEscape, opensEscape, same, sameSecond]

/-- An encoded text stands for the bytes that it stood for before. -/
theorem decode_encode : (text : List Char) → decode (encode keep text) = decode text
  | [] => rfl
  | character :: rest => by
    have ih := decode_encode rest
    cases escape : opensEscape (character :: rest) with
    | true =>
        obtain ⟨high, low, later, byte, same, first, second, decoded⟩ :=
          exists_of_opensEscape escape
        obtain ⟨rfl, rfl⟩ := List.cons.inj same
        rw [encode_cons_of_keep leaves.sign, encode_cons_of_keep (leaves.digits high first),
          encode_cons_of_keep (leaves.digits low second), decoded, decoded, decode_encode later]
    | false =>
        rw [decode_of_not_opensEscape escape]
        cases kept : keep character with
        | false => rw [encode_cons_of_not_keep kept, decode_encodeBytes, ih]
        | true =>
            have plain : opensEscape (character :: encode keep rest) = false := by
              by_cases sign : character = '%'
              · subst sign
                rw [leaves.opensEscape_encode, escape]
              · exact opensEscape_cons sign
            rw [encode_cons_of_keep kept, decode_of_not_opensEscape plain, ih]

end Leaves

def meaning (text : List Char) : String :=
  Utf8.decode (decode text)

theorem length_decodeFrom_le {opened : Option Utf8.Partial}
    (proper : ∀ own ∈ opened, own.IsProper) :
    (text : List Char) →
      (Utf8.decodeFrom opened (decode text)).length + (!isUnescaped text).toNat ≤
        text.length + opened.isSome.toNat
  | [] => by cases opened <;> simp [decode, Utf8.decodeFrom, isUnescaped]
  | character :: rest => by
    cases escape : opensEscape (character :: rest) with
    | true =>
        obtain ⟨high, low, later, byte, same, -, -, decoded⟩ := exists_of_opensEscape escape
        obtain ⟨rfl, rfl⟩ := List.cons.inj same
        have stepped := Utf8.length_step opened byte
        have ih := @length_decodeFrom_le (Utf8.step opened byte).2 (fun _ => Utf8.step_proper) later
        have one := Bool.toNat_le (!isUnescaped ('%' :: high :: low :: later))
        rw [decoded, Utf8.decodeFrom]
        simp only [List.length_append, List.length_cons]
        omega
    | false =>
        have ih := @length_decodeFrom_le none (by simp) rest
        rw [decode_of_not_opensEscape escape, isUnescaped, escape, Bool.not_false, Bool.true_and]
        cases opened with
        | none =>
            rw [Utf8.decodeFrom_encodeChar]
            simp only [List.length_cons]
            omega
        | some own =>
            rw [Utf8.decodeFrom_broken (proper own rfl)]
            simp only [List.length_cons, Option.isSome_some, Option.isSome_none, Bool.toNat_true,
              Bool.toNat_false] at ih ⊢
            omega

theorem meaning_of_isUnescaped {text : List Char} (plain : isUnescaped text) :
    meaning text = String.ofList text := by
  have own := Utf8.decode_encode (String.ofList text)
  rwa [String.toList_ofList, ← decode_of_isUnescaped plain] at own

theorem length_meaning_lt {text : List Char} (escaped : isUnescaped text = false) :
    (meaning text).length < text.length := by
  have bound := @length_decodeFrom_le none (by simp) text
  rw [escaped] at bound
  rw [meaning, Utf8.decode, String.length_ofList]
  exact bound

theorem Leaves.meaning_encode {keep : Char → Bool} (leaves : Leaves keep) (text : List Char) :
    meaning (encode keep text) = meaning text :=
  congrArg Utf8.decode (leaves.decode_encode text)

end Tenancy.Text.Percent
