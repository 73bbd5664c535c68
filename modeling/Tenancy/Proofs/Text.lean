import Tenancy.Proofs.Text.Utf8
import Tenancy.Text.Cut
import Tenancy.Text.Form

/-!
Texts that encodings leave as they are, and forms that are read again.
-/

namespace Tenancy.Text

section

variable {isCut : Char → Bool} {part : List Char}

theorem cut_of_forall (whole : ∀ character ∈ part, isCut character = false) :
    cut isCut part = [part] := by
  induction part with
  | nil => rfl
  | cons character part ih =>
      rw [List.forall_mem_cons] at whole
      rw [cut, if_neg (by simp [whole.1]), ih whole.2]

theorem cut_append {mark : Char} (rest : List Char)
    (whole : ∀ character ∈ part, isCut character = false) (cuts : isCut mark) :
    cut isCut (part ++ mark :: rest) = part :: cut isCut rest := by
  induction part with
  | nil => rw [List.nil_append, cut, if_pos cuts]
  | cons character part ih =>
      rw [List.forall_mem_cons] at whole
      rw [List.cons_append, cut, if_neg (by simp [whole.1]), ih whole.2]

theorem cut_ne_nil (isCut : Char → Bool) (text : List Char) : cut isCut text ≠ [] := by
  unfold cut
  split
  · simp
  · split
    · simp
    · split <;> simp

theorem cut_append_cut {mark : Char} (before rest : List Char) (cuts : isCut mark) :
    cut isCut (before ++ mark :: rest) = cut isCut before ++ cut isCut rest := by
  induction before with
  | nil => simp [cut, cuts]
  | cons character before ih =>
      rw [List.cons_append, cut, cut, ih]
      by_cases divides : isCut character
      · rw [if_pos divides, if_pos divides, List.cons_append]
      · obtain ⟨first, parts, parted⟩ := List.exists_cons_of_ne_nil (cut_ne_nil isCut before)
        rw [if_neg divides, if_neg divides, parted, List.cons_append, List.cons_append]

theorem mem_cut_cons {character : Char} {rest : List Char}
    (member : part ∈ cut isCut (character :: rest)) :
    isCut character ∧ (part = [] ∨ part ∈ cut isCut rest) ∨
      isCut character = false ∧
        (part ∈ cut isCut rest ∨ ∃ first ∈ cut isCut rest, part = character :: first) := by
  rw [cut] at member
  split at member
  next cuts => exact .inl ⟨cuts, List.mem_cons.mp member⟩
  next goes =>
    refine .inr ⟨by simpa using goes, ?_⟩
    split at member
    next first parts parted =>
      rw [parted]
      obtain rfl | member := List.mem_cons.mp member
      · exact .inr ⟨first, List.mem_cons_self, rfl⟩
      · exact .inl (List.mem_cons_of_mem _ member)
    next none => exact absurd none (cut_ne_nil isCut rest)

theorem not_isCut_of_mem_cut {text : List Char} (member : part ∈ cut isCut text) :
    ∀ character ∈ part, isCut character = false := by
  induction text generalizing part with
  | nil =>
      obtain rfl := List.mem_singleton.mp member
      exact nofun
  | cons character rest ih =>
      obtain ⟨-, rfl | inside⟩ | ⟨goes, inside | ⟨first, inside, rfl⟩⟩ := mem_cut_cons member
      · exact nofun
      · exact ih inside
      · exact ih inside
      · exact List.forall_mem_cons.mpr ⟨goes, ih inside⟩

theorem length_of_mem_cut {text : List Char} (member : part ∈ cut isCut text) :
    part.length + text.countP isCut ≤ text.length := by
  induction text generalizing part with
  | nil =>
      obtain rfl := List.mem_singleton.mp member
      exact Nat.le_refl 0
  | cons character rest ih =>
      obtain ⟨cuts, rfl | inside⟩ | ⟨goes, inside | ⟨first, inside, rfl⟩⟩ := mem_cut_cons member
      · rw [List.length_nil, Nat.zero_add]
        exact List.countP_le_length
      · have shorter := ih inside
        rw [List.countP_cons_of_pos cuts, List.length_cons]
        omega
      · have shorter := ih inside
        rw [List.countP_cons_of_neg (by simp [goes]), List.length_cons]
        omega
      · have shorter := ih inside
        rw [List.countP_cons_of_neg (by simp [goes]), List.length_cons, List.length_cons]
        omega

end

theorem forall_of_all {P : Char → Prop} [DecidablePred P] {text : List Char}
    (all : text.all (decide <| P ·)) : ∀ character ∈ text, P character := by
  simpa using all

theorem forall_ascii {P : Char → Prop} (each : ∀ code < 128, P (Char.ofNat code))
    {character : Char} (ascii : character.toNat < 128) : P character := by
  have known := each character.toNat ascii
  rwa [Char.ofNat_toNat] at known

namespace Percent

theorem encode_of_forall {keep : Char → Bool} {text : List Char}
    (kept : ∀ character ∈ text, keep character) : encode keep text = text := by
  induction text with
  | nil => rfl
  | cons character text ih =>
      rw [List.forall_mem_cons] at kept
      have rest := ih kept.2
      rw [encode] at rest ⊢
      rw [List.flatMap_cons, rest, encodeChar, if_pos kept.1, List.singleton_append]

theorem decode_cons {character : Char} (other : character ≠ '%') (rest : List Char) :
    decode (character :: rest) = String.utf8EncodeChar character ++ decode rest := by
  rw [decode]
  rintro _ _ _ rfl
  exact absurd rfl other

theorem hexValue?_hexDigit : ∀ digit < 16, hexValue? (hexDigit digit) = some digit := by
  decide

theorem decode_encodeByte (byte : UInt8) (rest : List Char) :
    decode (encodeByte byte ++ rest) = byte :: decode rest := by
  have bound := byte.toNat_lt
  have high := hexValue?_hexDigit (byte.toNat / 16) (by omega)
  have low := hexValue?_hexDigit (byte.toNat % 16) (by omega)
  rw [encodeByte, List.cons_append, List.cons_append, List.cons_append, List.nil_append, decode,
    high, low]
  have whole : 16 * (byte.toNat / 16) + byte.toNat % 16 = byte.toNat := by omega
  simp only [whole, UInt8.ofNat_toNat]

theorem decode_encodeBytes (bytes : List UInt8) (rest : List Char) :
    decode (bytes.flatMap encodeByte ++ rest) = bytes ++ decode rest := by
  induction bytes with
  | nil => rfl
  | cons byte bytes ih => rw [List.flatMap_cons, List.append_assoc, decode_encodeByte, ih]; rfl

theorem not_mem_encodeByte {mark : Char} (sign : mark ≠ '%') (undigit : hexValue? mark = none)
    (byte : UInt8) : mark ∉ encodeByte byte := by
  have bound := byte.toNat_lt
  have digitless {digit : Nat} (small : digit < 16) : mark ≠ hexDigit digit := by
    rintro rfl
    rw [hexValue?_hexDigit digit small] at undigit
    cases undigit
  simp only [encodeByte, List.mem_cons, List.not_mem_nil, or_false, not_or]
  exact ⟨sign, digitless (by omega), digitless (by omega)⟩

theorem not_mem_encodeBytes {mark : Char} (sign : mark ≠ '%') (undigit : hexValue? mark = none)
    (bytes : List UInt8) : mark ∉ bytes.flatMap encodeByte := by
  intro member
  obtain ⟨byte, -, inside⟩ := List.mem_flatMap.mp member
  exact not_mem_encodeByte sign undigit byte inside

end Percent

namespace Form

def blankOfPlus (character : Char) : Char :=
  if character = '+' then ' ' else character

def decode (text : List Char) : String :=
  Utf8.decode (Percent.decode (text.map blankOfPlus))

def pairs (query : List Char) : List (String × String) :=
  (cut (· == '&') query).map fun pair =>
    let name := pair.takeWhile (· != '=')
    (decode name, decode (pair.drop (name.length + 1)))

theorem decode_encodeChar (character : Char) (rest : List Char) :
    Percent.decode ((encodeChar character).map blankOfPlus ++ rest) =
      String.utf8EncodeChar character ++ Percent.decode rest := by
  unfold encodeChar
  split
  next blank =>
    subst blank
    exact Percent.decode_cons (by decide) rest
  next other =>
    unfold Percent.encodeChar
    split
    next stands =>
      have plus : character ≠ '+' := by rintro rfl; exact absurd stands (by decide)
      have percent : character ≠ '%' := by rintro rfl; exact absurd stands (by decide)
      rw [List.map_cons, List.map_nil, blankOfPlus, if_neg plus]
      exact Percent.decode_cons percent rest
    next =>
      have plusless : '+' ∉ (String.utf8EncodeChar character).flatMap Percent.encodeByte :=
        Percent.not_mem_encodeBytes (by decide) (by decide) _
      have kept : ((String.utf8EncodeChar character).flatMap Percent.encodeByte).map blankOfPlus =
          (String.utf8EncodeChar character).flatMap Percent.encodeByte :=
        (List.map_congr_left fun own member =>
          if_neg fun same : own = '+' => plusless (same ▸ member)).trans (List.map_id _)
      rw [kept, Percent.decode_encodeBytes]

theorem decode_encode (text : String) : decode (encode text) = text := by
  have each (characters : List Char) :
      Percent.decode ((characters.flatMap encodeChar).map blankOfPlus) =
        characters.flatMap String.utf8EncodeChar := by
    induction characters with
    | nil => rfl
    | cons character characters ih =>
        rw [List.flatMap_cons, List.map_append, decode_encodeChar, ih, List.flatMap_cons]
  rw [decode, encode, each, Utf8.decode_encode]

theorem encode_parts (text : String) : ∀ own ∈ encode text, own ≠ '&' ∧ own ≠ '=' := by
  have apart {mark : Char} (parts : mark = '&' ∨ mark = '=') : mark ∉ encode text := by
    have unlike : mark ≠ '+' ∧ mark ≠ '%' ∧ plain mark = false ∧
        Percent.hexValue? mark = none := by
      obtain rfl | rfl := parts <;> decide
    obtain ⟨blank, sign, barred, undigit⟩ := unlike
    intro member
    obtain ⟨character, -, encoded⟩ := List.mem_flatMap.mp member
    unfold encodeChar Percent.encodeChar at encoded
    split at encoded
    next => exact blank (List.mem_singleton.mp encoded)
    next =>
      split at encoded
      next stands =>
        obtain rfl := List.mem_singleton.mp encoded
        exact Bool.false_ne_true (barred.symm.trans stands)
      next => exact Percent.not_mem_encodeBytes sign undigit _ encoded
  exact fun own member => ⟨fun same => apart (.inl rfl) (same ▸ member),
    fun same => apart (.inr rfl) (same ▸ member)⟩

theorem cut_encodePair (name value : String) :
    cut (· == '&') (encodePair name value) = [encodePair name value] := by
  refine cut_of_forall fun own member => ?_
  rw [encodePair, List.mem_append, List.mem_cons] at member
  obtain inside | rfl | inside := member
  · exact beq_eq_false_iff_ne.mpr (encode_parts name own inside).1
  · rfl
  · exact beq_eq_false_iff_ne.mpr (encode_parts value own inside).1

theorem pairs_encodePair (name value : String) :
    pairs (encodePair name value) = [(name, value)] := by
  have before : (encodePair name value).takeWhile (· != '=') = encode name := by
    rw [encodePair, List.takeWhile_append_of_pos fun own member => by
      simpa using (encode_parts name own member).2]
    simp
  have after : (encodePair name value).drop ((encode name).length + 1) = encode value := by
    rw [encodePair, List.drop_append]
    simp
  rw [pairs, cut_encodePair, List.map_singleton]
  simp only [before, after, decode_encode]

end Form

def inWord (character : Char) : Bool :=
  character.isAlphanum || character == '-' || character == '_' || character == '.'

structure IsWord (text : String) : Prop where
  nonempty : text.toList ≠ []
  plain : ∀ character ∈ text.toList, inWord character

instance (text : String) : Decidable (IsWord text) :=
  decidable_of_iff (text.toList ≠ [] ∧ text.toList.all inWord)
    ⟨fun ⟨nonempty, plain⟩ => ⟨nonempty, List.all_eq_true.mp plain⟩,
      fun word => ⟨word.nonempty, List.all_eq_true.mpr word.plain⟩⟩

theorem ascii_of_alphanum {character : Char} (plain : character.isAlphanum) :
    character.toNat < 128 := by
  have bound {last : Char} (below : character.val ≤ last.val) (ascii : last.toNat < 128) :
      character.toNat < 128 :=
    Nat.lt_of_le_of_lt (UInt32.le_iff_toNat_le.mp below) ascii
  obtain letter | digit := Bool.or_eq_true_iff.mp plain
  · obtain capital | small := Bool.or_eq_true_iff.mp letter
    · exact bound (of_decide_eq_true capital).2 (by decide)
    · exact bound (of_decide_eq_true (Bool.and_eq_true_iff.mp small).2) (by decide)
  · exact bound (of_decide_eq_true (Bool.and_eq_true_iff.mp digit).2) (by decide)

theorem ascii_of_inWord {character : Char} (plain : inWord character) : character.toNat < 128 := by
  simp only [inWord, Bool.or_eq_true, beq_iff_eq] at plain
  obtain ((plain | rfl) | rfl) | rfl := plain
  · exact ascii_of_alphanum plain
  · decide
  · decide
  · decide

theorem IsWord.form_encode {text : String} (word : IsWord text) :
    Form.encode text = text.toList := by
  have each (characters : List Char) (plain : ∀ character ∈ characters, inWord character) :
      characters.flatMap Form.encodeChar = characters := by
    induction characters with
    | nil => rfl
    | cons character characters ih =>
        rw [List.forall_mem_cons] at plain
        have own : Form.encodeChar character = [character] :=
          forall_ascii (P := fun character => inWord character →
            Form.encodeChar character = [character]) (by decide +kernel)
            (ascii_of_inWord plain.1) plain.1
        rw [List.flatMap_cons, own, ih plain.2, List.singleton_append]
  exact each text.toList word.plain

end Tenancy.Text
