import Tenancy.Proofs.Json.Building
import Tenancy.Proofs.Text.Utf8

/-!
What is written for a value is read as the value, also with blanks around and between its tokens.
Every character comes through its escape, every number through its digits.
-/

namespace Tenancy.Json

def utf8 (text : List Char) : List UInt8 := text.flatMap String.utf8EncodeChar

mutual

def node : Json → Node
  | .null => .null
  | .bool value => .bool value
  | .number mantissa exponent => .number (writeNumber mantissa exponent)
  | .string text => .string (some text)
  | .array items => .array (itemNodes items)
  | .object members => .object (memberNodes members)

def itemNodes : List Json → List Node
  | [] => []
  | item :: items => item.node :: itemNodes items

def memberNodes : List (String × Json) → List (Option String × Node)
  | [] => []
  | (name, value) :: members => (some name, value.node) :: memberNodes members

end

def Token.written : Token → List Char
  | .openArray => ['[']
  | .closeArray => [']']
  | .openObject => ['\x7b']
  | .closeObject => ['\x7d']
  | .comma => [',']
  | .colon => [':']
  | .null => "null".toList
  | .bool true => "true".toList
  | .bool false => "false".toList
  | .number spelling => spelling
  | .string text => quote (text.getD "")

def lexemes (value : Json) : List (List UInt8) :=
  value.node.tokens.map fun token => utf8 token.written

section Writing

mutual

theorem flatMap_written (value : Json) :
    value.node.tokens.flatMap Token.written = value.write := by
  match value with
  | .null | .bool true | .bool false => rfl
  | .number _ _ | .string _ =>
      simp [node, Node.tokens, write, Token.written]
  | .array items =>
      simp [node, Node.tokens, write, Token.written, flatMap_items items]
  | .object members =>
      simp [node, Node.tokens, write, Token.written, flatMap_members members]

theorem flatMap_items (items : List Json) :
    (Node.itemTokens (itemNodes items)).flatMap Token.written = writeItems items := by
  match items with
  | [] => rfl
  | [item] => exact flatMap_written item
  | item :: next :: rest =>
      have first := flatMap_written item
      have others := flatMap_items (next :: rest)
      rw [itemNodes] at others
      simp [itemNodes, Node.itemTokens, writeItems, Token.written, first, others]

theorem flatMap_members (members : List (String × Json)) :
    (Node.memberTokens (memberNodes members)).flatMap Token.written = writeMembers members := by
  match members with
  | [] => rfl
  | [(name, value)] =>
      simp [memberNodes, Node.memberTokens, writeMembers, Token.written, flatMap_written value]
  | (name, value) :: next :: rest =>
      have first := flatMap_written value
      have others := flatMap_members (next :: rest)
      rw [memberNodes] at others
      simp [memberNodes, Node.memberTokens, writeMembers, Token.written, first, others]

end

end Writing

section Numbers

open Token (Digits Lexeme Numeral)

theorem utf8_append (first rest : List Char) : utf8 (first ++ rest) = utf8 first ++ utf8 rest :=
  List.flatMap_append

theorem utf8EncodeChar_ascii {character : Char} (ascii : character.toNat < 128) :
    String.utf8EncodeChar character = [character.toUInt8] := by
  have small : character.val.toNat ≤ 127 := Nat.lt_succ_iff.mp ascii
  exact if_pos small

theorem ofUInt8_toUInt8 {character : Char} (ascii : character.toNat < 128) :
    Char.ofUInt8 character.toUInt8 = character := by
  exact Char.toNat_inj.mp (Nat.mod_eq_of_lt (show character.toNat < 256 by omega))

theorem utf8_ascii {text : List Char} (ascii : ∀ character ∈ text, character.toNat < 128) :
    utf8 text = text.map Char.toUInt8 ∧ (utf8 text).map Char.ofUInt8 = text := by
  induction text with
  | nil => exact ⟨rfl, rfl⟩
  | cons character text ih =>
      obtain ⟨first, rest⟩ := List.forall_mem_cons.mp ascii
      obtain ⟨same, read⟩ := ih rest
      have written : utf8 (character :: text) = character.toUInt8 :: utf8 text := by
        rw [utf8, List.flatMap_cons, utf8EncodeChar_ascii first]
        rfl
      rw [written]
      exact ⟨by rw [same, List.map_cons], by rw [List.map_cons, read, ofUInt8_toUInt8 first]⟩

theorem isDigit_toUInt8 {character : Char} (digit : character.isDigit) :
    character.toNat < 128 ∧ Token.NumberPart.isDigit character.toUInt8 := by
  have range : 48 ≤ character.toNat ∧ character.toNat ≤ 57 := by
    simpa [Char.isDigit, UInt32.le_iff_toNat_le] using digit
  have same : character.toUInt8.toNat = character.toNat :=
    Nat.mod_eq_of_lt (show character.toNat < 256 by omega)
  refine ⟨by omega, ?_⟩
  simp only [Token.NumberPart.isDigit, Bool.and_eq_true, decide_eq_true_eq, UInt8.le_iff_toNat_le,
    UInt8.reduceToNat, same]
  exact range

theorem isDigit_of_mem {number : Nat} {character : Char}
    (member : character ∈ Nat.toDigits 10 number) : character.isDigit :=
  Nat.isDigit_of_mem_toDigits (by decide) (by decide) member

theorem ascii_of_mem {number : Nat} :
    ∀ character ∈ Nat.toDigits 10 number, character.toNat < 128 :=
  fun _ member => (isDigit_toUInt8 (isDigit_of_mem member)).1

theorem digits_utf8 (number : Nat) : Digits (utf8 (Nat.toDigits 10 number)) := by
  rw [(utf8_ascii ascii_of_mem).1]
  refine ⟨fun none => Nat.toDigits_ne_nil (List.map_eq_nil_iff.mp none), ?_⟩
  intro byte member
  obtain ⟨character, given, rfl⟩ := List.mem_map.mp member
  exact (isDigit_toUInt8 (isDigit_of_mem given)).2

theorem head?_toDigits {number : Nat} (zero : (Nat.toDigits 10 number).head? = some '0') :
    number = 0 := by
  induction number using Nat.strong_induction_on with
  | _ number ih =>
      by_cases single : number < 10
      · rw [Nat.toDigits_of_lt_base single] at zero
        interval_cases number <;> first | rfl | cases zero
      · have more : 10 ≤ number := Nat.not_lt.mp single
        rw [Nat.toDigits_of_base_le (by decide) more,
          List.head?_append_of_ne_nil _ Nat.toDigits_ne_nil] at zero
        have none := ih (number / 10) (by omega) zero
        omega

theorem unpadded (number : Nat) (zero : (utf8 (Nat.toDigits 10 number)).head? = some 48) :
    utf8 (Nat.toDigits 10 number) = Token.ascii "0" := by
  have first : (Nat.toDigits 10 number).head? = some '0' := by
    have read := congrArg List.head? (utf8_ascii (@ascii_of_mem number)).2
    rw [List.head?_map, zero] at read
    exact read.symm
  rw [head?_toDigits first]
  rfl

def sign (number : Int) : List Char := if number < 0 then ['-'] else []

theorem toString_int (number : Int) :
    (toString number).toList = sign number ++ Nat.toDigits 10 number.natAbs := by
  cases number with
  | ofNat number => simp [toString, Int.repr, Nat.repr, sign]
  | negSucc number => simp [toString, Int.repr, Nat.repr, sign]

theorem sign_cases (number : Int) : sign number = [] ∨ sign number = ['-'] := by
  unfold sign
  split
  · exact .inr rfl
  · exact .inl rfl

theorem utf8_sign (number : Int) :
    utf8 (sign number) = [] ∨ utf8 (sign number) = Token.ascii "-" := by
  obtain same | same := sign_cases number <;> rw [same]
  · exact .inl rfl
  · exact .inr rfl

def power (exponent : Int) : List UInt8 :=
  if exponent = 0 then []
  else Token.ascii "e" ++ utf8 (sign exponent) ++ utf8 (Nat.toDigits 10 exponent.natAbs)

def numeral (mantissa exponent : Int) : Numeral where
  sign := utf8 (sign mantissa)
  whole := utf8 (Nat.toDigits 10 mantissa.natAbs)
  fraction := []
  exponent := power exponent
  signed := utf8_sign mantissa
  counted := digits_utf8 _
  unpadded := unpadded _
  divided := .inl rfl
  raised := by
    unfold power
    split
    · exact .inl rfl
    · exact .inr ⟨_, _, _, .inl rfl, (utf8_sign exponent).imp_right .inr, digits_utf8 _, rfl⟩

theorem utf8_writeNumber (mantissa exponent : Int) :
    utf8 (writeNumber mantissa exponent) = (numeral mantissa exponent).bytes := by
  rw [writeNumber, toString_int, toString_int]
  by_cases whole : exponent = 0
  · simp [whole, utf8_append, Numeral.bytes, numeral, power]
  · have mark (text : List Char) : utf8 ('e' :: text) = Token.ascii "e" ++ utf8 text := rfl
    simp [whole, utf8_append, mark, Numeral.bytes, numeral, power]

theorem ascii_toString (number : Int) :
    ∀ character ∈ (toString number).toList, character.toNat < 128 := by
  rw [toString_int]
  refine List.forall_mem_append.mpr ⟨?_, ascii_of_mem⟩
  obtain same | same := sign_cases number <;> rw [same]
  · exact nofun
  · exact List.forall_mem_singleton.mpr (by decide)

theorem ascii_writeNumber (mantissa exponent : Int) :
    ∀ character ∈ writeNumber mantissa exponent, character.toNat < 128 := by
  rw [writeNumber]
  split
  · exact ascii_toString mantissa
  · exact List.forall_mem_append.mpr ⟨ascii_toString mantissa,
      List.forall_mem_cons.mpr ⟨by decide, ascii_toString exponent⟩⟩

theorem lexeme_number (mantissa exponent : Int) :
    Lexeme (utf8 (writeNumber mantissa exponent)) (.number (writeNumber mantissa exponent)) := by
  have lexeme := Lexeme.number (numeral mantissa exponent)
  rw [← utf8_writeNumber, (utf8_ascii (ascii_writeNumber mantissa exponent)).2] at lexeme
  exact lexeme

end Numbers

section Strings

open Token (Lexeme Piece)

theorem hexValue?_hexDigit : ∀ digit < 16,
    Token.Scanner.hexValue? (hexDigit digit).toUInt8 = some digit ∧ (hexDigit digit).toNat < 128 := by
  decide

theorem meaning?_bytes (bytes : List UInt8) (rest : List Piece) :
    Piece.meaning? (bytes.map .plain ++ rest) = (Piece.meaning? rest).map (bytes ++ ·) := by
  induction bytes with
  | nil => simp
  | cons byte bytes ih => simp [ih, Function.comp_def]

theorem written_plain {bytes : List UInt8}
    (each : ∀ byte ∈ bytes, 0x20 ≤ byte ∧ byte ≠ 0x22 ∧ byte ≠ 0x5c) :
    List.Forall₂ Piece.Written (bytes.map .plain) (bytes.map ([·])) := by
  induction bytes with
  | nil => exact .nil
  | cons byte bytes ih =>
      obtain ⟨⟨visible, unquoted, unescaped⟩, rest⟩ := List.forall_mem_cons.mp each
      exact .cons (.plain visible unquoted unescaped) (ih rest)

theorem plain_bytes {character : Char} (visible : 32 ≤ character.toNat)
    (unquoted : character ≠ '"') (unescaped : character ≠ '\\') :
    ∀ byte ∈ String.utf8EncodeChar character, 0x20 ≤ byte ∧ byte ≠ 0x22 ∧ byte ≠ 0x5c := by
  have quote : character.val.toNat ≠ 0x22 := fun same => unquoted (Char.toNat_inj.mp same)
  have backslash : character.val.toNat ≠ 0x5c := fun same => unescaped (Char.toNat_inj.mp same)
  have visible : 32 ≤ character.val.toNat := visible
  rw [String.utf8EncodeChar]
  generalize character.val.toNat = code at quote backslash visible ⊢
  simp only [UInt8.le_iff_toNat_le, ne_eq, ← UInt8.toNat_inj, UInt8.reduceToNat]
  split_ifs
  all_goals
    simp only [List.forall_mem_cons, List.not_mem_nil, false_imp_iff, implies_true, and_true,
      UInt8.toNat_ofNat']
    omega

theorem pieces_escape (character : Char) :
    ∃ pieces written, List.Forall₂ Piece.Written pieces written ∧
      written.flatten = utf8 (escape character) ∧ ∀ rest, Piece.meaning? (pieces ++ rest) =
        (Piece.meaning? rest).map (String.utf8EncodeChar character ++ ·) := by
  unfold escape
  split
  case h_8 other quote backslash _ _ _ _ _ =>
    split
    next control =>
      have small : character.toNat / 16 < 16 ∧ character.toNat % 16 < 16 := by omega
      obtain ⟨high, highAscii⟩ := hexValue?_hexDigit _ small.1
      obtain ⟨low, lowAscii⟩ := hexValue?_hexDigit _ small.2
      have zero : Token.Scanner.hexValue? 48 = some 0 := rfl
      have digits := Piece.Written.unit zero zero high low
      rw [show 16 * (16 * (16 * 0 + 0) + character.toNat / 16) + character.toNat % 16 =
        character.toNat by omega] at digits
      refine ⟨[.unit character.toNat], [_], .cons digits .nil, ?_, fun rest => ?_⟩
      · have ascii : ∀ letter ∈ ['\\', 'u', '0', '0', hexDigit (character.toNat / 16),
            hexDigit (character.toNat % 16)], letter.toNat < 128 := by
          simp [highAscii, lowAscii]
        exact (utf8_ascii ascii).1.symm
      · rw [List.singleton_append, Piece.meaning?_scalar _ _ rest, Char.ofNat_toNat]
        · exact fun high => by have := high.1; omega
        · exact fun low => by have := low.1; omega
    next visible =>
      have plain := plain_bytes (Nat.not_lt.mp visible) quote backslash
      refine ⟨_, _, written_plain plain, ?_, meaning?_bytes _⟩
      rw [utf8, List.flatMap_singleton, ← List.flatMap_def, List.flatMap_singleton']
  all_goals exact ⟨[.escaped _], [[0x5c, _]], .cons (.escaped rfl) .nil, rfl, fun _ => rfl⟩

theorem pieces_text (text : List Char) :
    ∃ pieces written, List.Forall₂ Piece.Written pieces written ∧
      written.flatten = utf8 (text.flatMap escape) ∧ Piece.meaning? pieces = some (utf8 text) := by
  induction text with
  | nil => exact ⟨[], [], .nil, rfl, rfl⟩
  | cons character text ih =>
      obtain ⟨pieces, written, each, same, meaning⟩ := pieces_escape character
      obtain ⟨others, more, eachToo, sameToo, meaningToo⟩ := ih
      refine ⟨pieces ++ others, written ++ more, List.rel_append each eachToo, ?_, ?_⟩
      · rw [List.flatten_append, same, sameToo, List.flatMap_cons, utf8_append]
      · rw [meaning, meaningToo]
        rfl

theorem lexeme_string (text : String) : Lexeme (utf8 (quote text)) (.string (some text)) := by
  obtain ⟨pieces, written, each, same, meaning⟩ := pieces_text text.toList
  have lexeme := Lexeme.string each
  have read : Piece.text? pieces = some text := by
    rw [Piece.text?, meaning, Option.bind_some]
    exact Text.Utf8.fromUTF8?_encode text
  have bytes : utf8 (quote text) =
      Token.ascii "\"" ++ utf8 (text.toList.flatMap escape) ++ Token.ascii "\"" := by
    have mark (rest : List Char) : utf8 ('"' :: rest) = Token.ascii "\"" ++ utf8 rest := rfl
    rw [quote, mark, utf8_append, ← List.append_assoc]
    rfl
  rw [bytes, ← same, ← read]
  exact lexeme

end Strings

section Reading

open Token (Lexeme Spread)

mutual

theorem lexeme_tokens (value : Json) :
    ∀ token ∈ value.node.tokens, Lexeme (utf8 token.written) token := by
  match value with
  | .null => exact List.forall_mem_singleton.mpr .null
  | .bool true => exact List.forall_mem_singleton.mpr .true
  | .bool false => exact List.forall_mem_singleton.mpr .false
  | .number mantissa exponent =>
      exact List.forall_mem_singleton.mpr (lexeme_number mantissa exponent)
  | .string text => exact List.forall_mem_singleton.mpr (lexeme_string text)
  | .array items =>
      exact List.forall_mem_cons.mpr ⟨.openArray, List.forall_mem_append.mpr
        ⟨lexeme_itemTokens items, List.forall_mem_singleton.mpr .closeArray⟩⟩
  | .object members =>
      exact List.forall_mem_cons.mpr ⟨.openObject, List.forall_mem_append.mpr
        ⟨lexeme_memberTokens members, List.forall_mem_singleton.mpr .closeObject⟩⟩

theorem lexeme_itemTokens (items : List Json) :
    ∀ token ∈ Node.itemTokens (itemNodes items), Lexeme (utf8 token.written) token := by
  match items with
  | [] => exact nofun
  | [item] => exact lexeme_tokens item
  | item :: next :: rest =>
      exact List.forall_mem_append.mpr ⟨lexeme_tokens item,
        List.forall_mem_cons.mpr ⟨.comma, lexeme_itemTokens (next :: rest)⟩⟩

theorem lexeme_memberTokens (members : List (String × Json)) :
    ∀ token ∈ Node.memberTokens (memberNodes members), Lexeme (utf8 token.written) token := by
  match members with
  | [] => exact nofun
  | [(name, value)] =>
      exact List.forall_mem_cons.mpr ⟨lexeme_string name,
        List.forall_mem_cons.mpr ⟨.colon, lexeme_tokens value⟩⟩
  | (name, value) :: next :: rest =>
      exact List.forall_mem_cons.mpr ⟨lexeme_string name,
        List.forall_mem_cons.mpr ⟨.colon, List.forall_mem_append.mpr ⟨lexeme_tokens value,
          List.forall_mem_cons.mpr ⟨.comma, lexeme_memberTokens (next :: rest)⟩⟩⟩⟩

end

variable (value : Json)

theorem lexemes_flatten : value.lexemes.flatten = utf8 value.write := by
  rw [← flatMap_written, lexemes, utf8, List.flatMap_assoc]
  rfl

theorem lexemes_render : value.lexemes.flatten = value.render.toUTF8.toList := by
  rw [lexemes_flatten, Text.Utf8.toUTF8_toList, render, String.toList_ofList]
  rfl

theorem lexeme_lexemes : List.Forall₂ Lexeme value.lexemes value.node.tokens := by
  rw [lexemes, List.forall₂_map_left_iff]
  exact List.forall₂_same.mpr (lexeme_tokens value)

/-- What is written for a value is read as it, whatever blanks are put to its tokens. -/
theorem read?_spread {text : List UInt8} (spread : Spread value.lexemes text) :
    Node.read? text = some value.node :=
  Node.read?_of_spells ⟨value.lexemes, lexeme_lexemes value, spread⟩

theorem spread_flatten (lexemes : List (List UInt8)) : Spread lexemes lexemes.flatten := by
  induction lexemes with
  | nil => exact .nil nofun
  | cons lexeme lexemes ih => exact @Spread.cons [] lexeme _ _ nofun ih

end Reading

end Tenancy.Json
