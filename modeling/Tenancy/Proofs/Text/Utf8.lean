import Mathlib.Tactic.SplitIfs
import Tenancy.Text.Utf8

/-!
Texts are read back from their bytes. Bytes that are not those of a text make no more characters
than there are bytes.
-/

namespace Tenancy.Text.Utf8

section

variable {opened : Partial} {code digit : Nat} {bytes : List UInt8}

theorem toNat_ofNat (bound : code < 256) : (UInt8.ofNat code).toNat = code :=
  Nat.mod_eq_of_lt bound

theorem decodeFrom_single (ascii : code < 0x80) :
    decodeFrom none (UInt8.ofNat code :: bytes) = Char.ofNat code :: decodeFrom none bytes := by
  have small : UInt8.ofNat code < 0x80 := by
    rw [UInt8.lt_iff_toNat_lt, toNat_ofNat (by omega)]
    exact ascii
  have started : begin (UInt8.ofNat code) = ([Char.ofNat code], none) := by
    rw [begin, if_pos small, toNat_ofNat (by omega)]
  rw [decodeFrom, step, started]
  rfl

theorem decodeFrom_lead (large : 0x80 ≤ code) (byte : code < 256)
    (lead : lead? code = some opened) :
    decodeFrom none (UInt8.ofNat code :: bytes) = decodeFrom (some opened) bytes := by
  have other : ¬ UInt8.ofNat code < 0x80 := by
    rw [UInt8.lt_iff_toNat_lt, toNat_ofNat byte]
    exact Nat.not_lt.mpr large
  have started : begin (UInt8.ofNat code) = ([], some opened) := by
    rw [begin, if_neg other, toNat_ofNat byte, lead]
  rw [decodeFrom, step, started]
  rfl

theorem step_continued {bits missing low high : Nat} (bound : digit < 64)
    (inside : low ≤ digit + 0x80 ∧ digit + 0x80 ≤ high) :
    step (some ⟨bits, missing, low, high⟩) (UInt8.ofNat (digit + 0x80)) =
      if missing ≤ 1 then ([Char.ofNat (bits * 64 + digit)], none)
      else ([], some ⟨bits * 64 + digit, missing - 1, 0x80, 0xbf⟩) := by
  simp only [step, toNat_ofNat (show digit + 0x80 < 256 by omega), inside, decide_true,
    Bool.and_self, if_true, Nat.add_sub_cancel]

theorem decodeFrom_middle {bits missing low high : Nat} (bound : digit < 64)
    (inside : low ≤ digit + 0x80 ∧ digit + 0x80 ≤ high) :
    decodeFrom (some ⟨bits, missing + 2, low, high⟩) (UInt8.ofNat (digit + 0x80) :: bytes) =
      decodeFrom (some ⟨bits * 64 + digit, missing + 1, 0x80, 0xbf⟩) bytes := by
  rw [decodeFrom, step_continued bound inside, if_neg (by omega)]
  rfl

theorem decodeFrom_last {bits low high : Nat} (bound : digit < 64)
    (inside : low ≤ digit + 0x80 ∧ digit + 0x80 ≤ high) :
    decodeFrom (some ⟨bits, 1, low, high⟩) (UInt8.ofNat (digit + 0x80) :: bytes) =
      Char.ofNat (bits * 64 + digit) :: decodeFrom none bytes := by
  rw [decodeFrom, step_continued bound inside, if_pos (by omega)]
  rfl

theorem lead?_two (low : 0x80 ≤ code) (high : code < 0x800) :
    lead? (code / 64 % 0x20 + 0xc0) = some ⟨code / 64, 1, 0x80, 0xbf⟩ := by
  simp only [lead?, Bool.and_eq_true, decide_eq_true_eq]
  rw [if_pos (by omega), show code / 64 % 0x20 + 0xc0 - 0xc0 = code / 64 by omega]

theorem lead?_three (low : 0x800 ≤ code) (high : code < 0x10000)
    (valid : code < 0xd800 ∨ 0xe000 ≤ code) :
    ∃ first last, lead? (code / 4096 % 0x10 + 0xe0) = some ⟨code / 4096, 2, first, last⟩ ∧
      first ≤ code / 64 % 0x40 + 0x80 ∧ code / 64 % 0x40 + 0x80 ≤ last := by
  have bits : code / 4096 % 0x10 + 0xe0 - 0xe0 = code / 4096 := by omega
  simp only [lead?, Bool.and_eq_true, decide_eq_true_eq]
  rw [if_neg (by omega)]
  split
  next least => exact ⟨_, _, by rw [show code / 4096 = 0 by omega], by omega, by omega⟩
  next =>
    split
    next surrogates =>
      exact ⟨_, _, by rw [show code / 4096 = 0xd by omega], by omega, by omega⟩
    next => exact ⟨_, _, by rw [if_pos (by omega), bits], by omega, by omega⟩

theorem lead?_four (low : 0x10000 ≤ code) (high : code < 0x110000) :
    ∃ first last, lead? (code / 262144 % 0x08 + 0xf0) = some ⟨code / 262144, 3, first, last⟩ ∧
      first ≤ code / 4096 % 0x40 + 0x80 ∧ code / 4096 % 0x40 + 0x80 ≤ last := by
  have bits : code / 262144 % 0x08 + 0xf0 - 0xf0 = code / 262144 := by omega
  simp only [lead?, Bool.and_eq_true, decide_eq_true_eq]
  rw [if_neg (by omega), if_neg (by omega), if_neg (by omega), if_neg (by omega)]
  split
  next least => exact ⟨_, _, by rw [show code / 262144 = 0 by omega], by omega, by omega⟩
  next =>
    split
    next most => exact ⟨_, _, by rw [show code / 262144 = 4 by omega], by omega, by omega⟩
    next => exact ⟨_, _, by rw [if_pos (by omega), bits], by omega, by omega⟩

end

theorem decodeFrom_encodeChar (character : Char) (bytes : List UInt8) :
    decodeFrom none (String.utf8EncodeChar character ++ bytes) =
      character :: decodeFrom none bytes := by
  have same : Char.ofNat character.val.toNat = character := Char.ofNat_toNat character
  have valid : character.val.toNat < 0xd800 ∨
      0xdfff < character.val.toNat ∧ character.val.toNat < 0x110000 := character.valid
  unfold String.utf8EncodeChar
  generalize character.val.toNat = code at same valid ⊢
  simp only
  have last : code % 0x40 < 64 := Nat.mod_lt _ (by decide)
  have third : code / 64 % 0x40 < 64 := Nat.mod_lt _ (by decide)
  have second : code / 4096 % 0x40 < 64 := Nat.mod_lt _ (by decide)
  split
  next single => rw [List.singleton_append, decodeFrom_single (by omega), same]
  split
  next double =>
    have lead := lead?_two (show 0x80 ≤ code by omega) (by omega)
    rw [List.cons_append, List.singleton_append,
      decodeFrom_lead (by omega) (by omega) lead, decodeFrom_last last (by omega),
      show code / 64 * 64 + code % 0x40 = code by omega, same]
  split
  next triple =>
    obtain ⟨first, final, lead, inside⟩ :=
      lead?_three (show 0x800 ≤ code by omega) (by omega) (by omega)
    rw [List.cons_append, List.cons_append, List.singleton_append,
      decodeFrom_lead (by omega) (by omega) lead, decodeFrom_middle third inside,
      decodeFrom_last last (by omega),
      show (code / 4096 * 64 + code / 64 % 0x40) * 64 + code % 0x40 = code by omega, same]
  next =>
    obtain ⟨first, final, lead, inside⟩ :=
      lead?_four (show 0x10000 ≤ code by omega) (by omega)
    rw [List.cons_append, List.cons_append, List.cons_append, List.singleton_append,
      decodeFrom_lead (by omega) (by omega) lead, decodeFrom_middle second inside,
      decodeFrom_middle third (by omega), decodeFrom_last last (by omega),
      show ((code / 262144 * 64 + code / 4096 % 0x40) * 64 + code / 64 % 0x40) * 64 +
        code % 0x40 = code by omega, same]

theorem decodeFrom_encode (characters : List Char) :
    decodeFrom none (characters.flatMap String.utf8EncodeChar) = characters := by
  induction characters with
  | nil => rfl
  | cons character characters ih => rw [List.flatMap_cons, decodeFrom_encodeChar, ih]

/-- A text is read back from its bytes. -/
theorem decode_encode (text : String) :
    decode (text.toList.flatMap String.utf8EncodeChar) = text := by
  rw [decode, decodeFrom_encode, String.ofList_toList]

def Partial.IsProper (opened : Partial) : Prop := 0x80 ≤ opened.low ∧ opened.high < 0xc0

theorem lead?_proper {byte : Nat} {opened : Partial} (lead : lead? byte = some opened) :
    opened.IsProper := by
  unfold lead? at lead
  split_ifs at lead <;> obtain rfl := Option.some.inj lead <;> simp [Partial.IsProper]

theorem begin_proper {byte : UInt8} {opened : Partial} (started : (begin byte).2 = some opened) :
    opened.IsProper := by
  unfold begin at started
  split at started
  · contradiction
  · split at started
    next lead => exact lead?_proper (lead.trans started)
    next => contradiction

theorem length_begin (byte : UInt8) : (begin byte).1.length + (begin byte).2.isSome.toNat = 1 := by
  unfold begin
  split
  · rfl
  · split <;> rfl

theorem step_proper {opened : Option Partial} {byte : UInt8} {next : Partial}
    (stepped : (step opened byte).2 = some next) : next.IsProper := by
  unfold step at stepped
  split at stepped
  · exact begin_proper stepped
  · split_ifs at stepped
    · obtain rfl := Option.some.inj stepped
      simp [Partial.IsProper]
    · exact begin_proper stepped

theorem length_step (opened : Option Partial) (byte : UInt8) :
    (step opened byte).1.length + (step opened byte).2.isSome.toNat ≤
      1 + opened.isSome.toNat := by
  have started := length_begin byte
  unfold step
  split
  · exact Nat.le_of_eq started
  · split_ifs
    · simp
    · simp
    · simp only [List.length_cons, Option.isSome_some, Bool.toNat_true]
      omega

theorem utf8EncodeChar_head (character : Char) :
    ∃ byte bytes, String.utf8EncodeChar character = byte :: bytes ∧
      (byte.toNat < 0x80 ∨ 0xc0 ≤ byte.toNat) := by
  unfold String.utf8EncodeChar
  generalize character.val.toNat = code
  simp only
  split_ifs
  · exact ⟨_, _, rfl, .inl (by rw [toNat_ofNat] <;> omega)⟩
  · exact ⟨_, _, rfl, .inr (by rw [toNat_ofNat] <;> omega)⟩
  · exact ⟨_, _, rfl, .inr (by rw [toNat_ofNat] <;> omega)⟩
  · exact ⟨_, _, rfl, .inr (by rw [toNat_ofNat] <;> omega)⟩

theorem decodeFrom_broken {opened : Partial} (proper : opened.IsProper) (character : Char)
    (bytes : List UInt8) :
    decodeFrom (some opened) (String.utf8EncodeChar character ++ bytes) =
      replacement :: character :: decodeFrom none bytes := by
  obtain ⟨low, high⟩ := proper
  have whole := decodeFrom_encodeChar character bytes
  obtain ⟨byte, rest, encoded, apart⟩ := utf8EncodeChar_head character
  have outside : ¬ (opened.low ≤ byte.toNat ∧ byte.toNat ≤ opened.high) := by omega
  rw [encoded, List.cons_append, decodeFrom] at whole ⊢
  have broken : step (some opened) byte = (replacement :: (begin byte).1, (begin byte).2) := by
    simp only [step, Bool.and_eq_true, decide_eq_true_eq]
    rw [if_neg outside]
  rw [broken]
  exact congrArg (replacement :: ·) whole

theorem toUTF8_eq (text : String) :
    text.toUTF8 = (text.toList.flatMap String.utf8EncodeChar).toByteArray :=
  String.utf8Encode_toList.symm

theorem toList_loop (bytes : ByteArray) (place : Nat) (taken : List UInt8) :
    ByteArray.toList.loop bytes place taken = taken.reverse ++ bytes.data.toList.drop place := by
  fun_induction ByteArray.toList.loop bytes place taken with
  | case1 place taken inside ih =>
      have inside' : place < bytes.data.toList.length := inside
      rw [ih, List.reverse_cons, List.append_assoc, List.singleton_append,
        List.drop_eq_getElem_cons inside']
      congr 2
      exact getElem!_pos bytes.data place inside
  | case2 place taken outside =>
      have outside : bytes.data.toList.length ≤ place := Nat.not_lt.mp outside
      rw [List.drop_eq_nil_of_le outside, List.append_nil]

theorem toUTF8_toList (text : String) :
    text.toUTF8.toList = text.toList.flatMap String.utf8EncodeChar := by
  rw [ByteArray.toList, toList_loop, toUTF8_eq, List.toList_data_toByteArray]
  rfl

theorem fromUTF8?_encode (text : String) :
    String.fromUTF8? ⟨(text.toList.flatMap String.utf8EncodeChar).toArray⟩ = some text := by
  have encoded : ⟨(text.toList.flatMap String.utf8EncodeChar).toArray⟩ = text.toUTF8 := by
    rw [toUTF8_eq]
    apply ByteArray.ext
    simp
  rw [encoded, String.fromUTF8?]
  exact dif_pos text.isValidUTF8

end Tenancy.Text.Utf8
