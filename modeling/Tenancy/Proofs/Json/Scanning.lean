import Mathlib.Data.List.Chain
import Mathlib.Tactic.IntervalCases
import Tenancy.Proofs.Json.Grammar

/-!
The scanner takes in the tokens of every text that is spelled by the grammar. No two numbers may
follow each other: blanks between them would have to stay.
-/

namespace Tenancy.Json

section

variable {σ α : Type} {step : σ → α → Option σ} {state next : σ}

theorem foldlM_append_of_eq_some {first : List α} (run : first.foldlM step state = some next)
    (rest : List α) : (first ++ rest).foldlM step state = rest.foldlM step next := by
  rw [List.foldlM_append, run]
  rfl

theorem foldlM_cons_of_eq_some {head : α} (run : step state head = some next) (rest : List α) :
    (head :: rest).foldlM step state = rest.foldlM step next := by
  rw [List.foldlM_cons, run]
  rfl

end

namespace Token

open Scanner

/-- These tokens, latest first, have been read: the scanner stands between two of them, or in a
number that may end here. -/
inductive Took : Scanner → List Token → Prop
  | between {tokens : List Token} : Took ⟨.between, tokens⟩ tokens
  | number {part : NumberPart} {spelling : List Char} {tokens : List Token}
      (complete : part.complete) :
      Took ⟨.number part spelling, tokens⟩ (.number spelling.reverse :: tokens)

def IsNumber (token : Token) : Prop := ∃ spelling, token = .number spelling

def Cuts (byte : UInt8) : Prop :=
  NumberPart.isDigit byte = false ∧ byte ≠ 46 ∧ byte ≠ 69 ∧ byte ≠ 101

instance (byte : UInt8) : Decidable (Cuts byte) := inferInstanceAs (Decidable (_ ∧ _))

section

variable {scanner : Scanner} {taken tokens : List Token} {byte : UInt8} {bytes : List UInt8}

theorem Took.finish? (took : Took scanner taken) : scanner.finish? = some taken.reverse := by
  cases took with
  | between => rfl
  | number complete => simp [Scanner.finish?, complete, emit]

theorem next?_of_cuts (cuts : Cuts byte) {part : NumberPart} (complete : part.complete) :
    part.next? byte = none := by
  obtain ⟨digit, point, large, small⟩ := cuts
  cases part <;> simp_all [NumberPart.next?, NumberPart.complete]

theorem Took.step (took : Took scanner taken) (cuts : Cuts byte) :
    scanner.step byte = begin? ⟨.between, taken⟩ byte := by
  cases took with
  | between => rfl
  | number complete =>
      simp only [Scanner.step, next?_of_cuts cuts complete, complete, if_true]
      rfl

theorem cuts_of_blank (blank : Scanner.blank byte) : Cuts byte := by
  simp only [Scanner.blank, Bool.or_eq_true, beq_iff_eq] at blank
  obtain ((rfl | rfl) | rfl) | rfl := blank <;> decide

theorem Took.blanks (took : Took scanner taken) (blank : Blank bytes) :
    ∃ next, bytes.foldlM Scanner.step scanner = some next ∧ Took next taken := by
  induction bytes generalizing scanner with
  | nil => exact ⟨scanner, rfl, took⟩
  | cons byte bytes ih =>
      obtain ⟨first, rest⟩ := List.forall_mem_cons.mp blank
      obtain ⟨next, run, took'⟩ := ih .between rest
      have stepped : scanner.step byte = some ⟨.between, taken⟩ := by
        rw [took.step (cuts_of_blank first), begin?, if_pos first]
      exact ⟨next, by rw [foldlM_cons_of_eq_some stepped, run], took'⟩

end

section Numbers

variable {tokens : List Token} {byte : UInt8} {bytes : List UInt8} {part last : NumberPart}

theorem digit_cases (digit : NumberPart.isDigit byte) :
    ∃ code, 48 ≤ code ∧ code < 58 ∧ byte = UInt8.ofNat code := by
  refine ⟨byte.toNat, ?_, ?_, UInt8.ofNat_toNat.symm⟩ <;>
    simp only [NumberPart.isDigit, Bool.and_eq_true, decide_eq_true_eq, UInt8.le_iff_toNat_le,
      UInt8.reduceToNat] at digit <;> omega

theorem begin?_digit (digit : NumberPart.isDigit byte) :
    begin? ⟨.between, tokens⟩ byte = (NumberPart.sign.next? byte).map fun part =>
      ⟨.number part [Char.ofUInt8 byte], tokens⟩ := by
  obtain ⟨code, least, most, rfl⟩ := digit_cases digit
  interval_cases code <;> rfl

theorem foldlM_number (spelled : bytes.foldlM NumberPart.next? part = some last)
    (spelling : List Char) :
    bytes.foldlM Scanner.step ⟨.number part spelling, tokens⟩ =
      some ⟨.number last ((bytes.map Char.ofUInt8).reverse ++ spelling), tokens⟩ := by
  induction bytes generalizing part spelling with
  | nil =>
      obtain rfl := Option.some.inj spelled
      rfl
  | cons byte bytes ih =>
      rw [List.foldlM_cons] at spelled
      obtain ⟨next, stepped, rest⟩ := Option.bind_eq_some_iff.mp spelled
      have moved : Scanner.step ⟨.number part spelling, tokens⟩ byte =
          some ⟨.number next (Char.ofUInt8 byte :: spelling), tokens⟩ := by
        simp only [Scanner.step, stepped]
      rw [foldlM_cons_of_eq_some moved, ih rest]
      simp

theorem foldlM_digits (digits : Digits bytes)
    (first : ∀ byte, NumberPart.isDigit byte → part.next? byte = some last)
    (more : ∀ byte, NumberPart.isDigit byte → last.next? byte = some last) :
    bytes.foldlM NumberPart.next? part = some last := by
  obtain ⟨nonempty, each⟩ := digits
  induction bytes generalizing part with
  | nil => exact absurd rfl nonempty
  | cons byte bytes ih =>
      obtain ⟨digit, each⟩ := List.forall_mem_cons.mp each
      rw [foldlM_cons_of_eq_some (first byte digit)]
      cases bytes with
      | nil => rfl
      | cons next bytes => exact ih more (List.cons_ne_nil next bytes) each

namespace Numeral

variable (numeral : Numeral)

theorem foldlM_whole : ∃ part, numeral.whole.foldlM NumberPart.next? .sign = some part ∧
    (part = .zero ∨ part = .whole) := by
  by_cases padded : numeral.whole.head? = some 48
  · rw [numeral.unpadded padded]
    exact ⟨.zero, rfl, .inl rfl⟩
  · obtain ⟨nonempty, each⟩ := numeral.counted
    obtain ⟨byte, bytes, split⟩ := List.exists_cons_of_ne_nil nonempty
    rw [split] at each padded ⊢
    obtain ⟨digit, each⟩ := List.forall_mem_cons.mp each
    have opened : NumberPart.sign.next? byte = some .whole := by
      have nonzero : ¬ byte = 48 := fun zero => padded (congrArg some zero)
      simp [NumberPart.next?, nonzero, digit]
    refine ⟨.whole, ?_, .inr rfl⟩
    rw [foldlM_cons_of_eq_some opened]
    cases bytes with
    | nil => rfl
    | cons next bytes =>
        have goesOn (byte : UInt8) (digit : NumberPart.isDigit byte) :
            NumberPart.whole.next? byte = some .whole := by
          simp [NumberPart.next?, digit]
        exact foldlM_digits ⟨List.cons_ne_nil next bytes, each⟩ goesOn goesOn

theorem foldlM_fraction (part : NumberPart) (whole : part = .zero ∨ part = .whole) :
    ∃ last, numeral.fraction.foldlM NumberPart.next? part = some last ∧
      (last = .zero ∨ last = .whole ∨ last = .fraction) := by
  obtain none | ⟨digits, given, written⟩ := numeral.divided
  · rw [none]
    exact ⟨part, rfl, by tauto⟩
  · have opened : part.next? 46 = some .point := by
      obtain rfl | rfl := whole <;> rfl
    refine ⟨.fraction, ?_, .inr (.inr rfl)⟩
    rw [written, show ascii "." = [46] from rfl, List.singleton_append,
      foldlM_cons_of_eq_some opened]
    apply foldlM_digits given <;> intro byte digit <;> simp [NumberPart.next?, digit]

theorem foldlM_exponent (part : NumberPart)
    (before : part = .zero ∨ part = .whole ∨ part = .fraction) :
    ∃ last, numeral.exponent.foldlM NumberPart.next? part = some last ∧ last.complete := by
  obtain none | ⟨mark, sign, digits, marked, signed, given, written⟩ := numeral.raised
  · rw [none]
    exact ⟨part, rfl, by obtain rfl | rfl | rfl := before <;> rfl⟩
  · have opened : mark.foldlM NumberPart.next? part = some .exponentMark := by
      obtain rfl | rfl := marked <;> obtain rfl | rfl | rfl := before <;> rfl
    refine ⟨.exponent, ?_, rfl⟩
    rw [written, List.append_assoc, foldlM_append_of_eq_some opened]
    obtain rfl | rfl | rfl := signed
    all_goals
      apply foldlM_digits given <;> intro byte digit <;> simp [NumberPart.next?, digit]

theorem foldlM_unsigned : ∃ part, part.complete ∧
    (numeral.whole ++ numeral.fraction ++ numeral.exponent).foldlM NumberPart.next? .sign =
      some part := by
  obtain ⟨first, whole, isWhole⟩ := numeral.foldlM_whole
  obtain ⟨second, fraction, before⟩ := numeral.foldlM_fraction first isWhole
  obtain ⟨last, exponent, complete⟩ := numeral.foldlM_exponent second before
  refine ⟨last, complete, ?_⟩
  rw [List.append_assoc, foldlM_append_of_eq_some whole, foldlM_append_of_eq_some fraction,
    exponent]

theorem scan (tokens : List Token) : ∃ part spelling, part.complete ∧
    numeral.bytes.foldlM Scanner.step ⟨.between, tokens⟩ =
      some ⟨.number part spelling, tokens⟩ ∧
        spelling.reverse = numeral.bytes.map Char.ofUInt8 := by
  obtain ⟨part, complete, run⟩ := numeral.foldlM_unsigned
  obtain ⟨nonempty, each⟩ := numeral.counted
  obtain ⟨first, whole, split⟩ := List.exists_cons_of_ne_nil nonempty
  have digit : NumberPart.isDigit first := each first (by rw [split]; exact List.mem_cons_self)
  have written : numeral.bytes =
      numeral.sign ++ first :: (whole ++ numeral.fraction ++ numeral.exponent) := by
    simp [bytes, split]
  rw [split, List.cons_append, List.cons_append] at run
  rw [written]
  generalize whole ++ numeral.fraction ++ numeral.exponent = rest at run
  obtain unsigned | signed := numeral.signed
  · rw [List.foldlM_cons] at run
    obtain ⟨next, opened, run⟩ := Option.bind_eq_some_iff.mp run
    have begun : Scanner.step ⟨.between, tokens⟩ first =
        some ⟨.number next [Char.ofUInt8 first], tokens⟩ := by
      rw [Scanner.step, begin?_digit digit, opened, Option.map_some]
    rw [unsigned, List.nil_append, foldlM_cons_of_eq_some begun]
    exact ⟨part, _, complete, foldlM_number run _, by simp⟩
  · have begun : Scanner.step ⟨.between, tokens⟩ 45 = some ⟨.number .sign ['-'], tokens⟩ := rfl
    rw [signed, show ascii "-" = [45] from rfl, List.singleton_append,
      foldlM_cons_of_eq_some begun]
    exact ⟨part, _, complete, foldlM_number run _, by simp; rfl⟩

end Numeral

end Numbers

section Strings

variable {tokens : List Token} {quotation : Quotation} {high : Option Nat} {byte : UInt8}

def Quotation.followed? (quotation : Quotation) (high : Option Nat) (pieces : List Piece) :
    Option String :=
  if quotation.broken then none
  else (Piece.meaning? (high.toList.map Piece.unit ++ pieces)).bind fun bytes =>
    String.fromUTF8? ⟨(quotation.bytes.reverse ++ bytes).toArray⟩

theorem text?_settle (isHigh : ∀ value ∈ high, Piece.IsHigh value) :
    (settle quotation high).text? = quotation.followed? high [] := by
  cases high with
  | none =>
      simp [settle, Quotation.text?, Quotation.followed?]
      rfl
  | some value =>
      have none := Piece.meaning?_high (isHigh value rfl) [] nofun
      simp [settle, Quotation.spoil, Quotation.text?, Quotation.followed?, none]

theorem followed?_spoil (pieces : List Piece) :
    quotation.spoil.followed? none pieces = none := by
  simp [Quotation.spoil, Quotation.followed?]

theorem followed?_plain (isHigh : ∀ value ∈ high, Piece.IsHigh value) (pieces : List Piece) :
    ((settle quotation high).push byte).followed? none pieces =
      quotation.followed? high (.plain byte :: pieces) := by
  cases high with
  | none =>
      simp [settle, Quotation.push, Quotation.followed?, Option.bind_map]
  | some value =>
      have none := Piece.meaning?_high (isHigh value rfl) (.plain byte :: pieces) nofun
      simp [settle, Quotation.spoil, Quotation.push, Quotation.followed?, none]

theorem followed?_pushChar (character : Char) (pieces : List Piece) :
    (quotation.pushChar character).followed? none pieces =
      quotation.followed? none (.escaped character :: pieces) := by
  simp [Quotation.pushChar, Quotation.followed?, Option.bind_map]

theorem followed?_escaped (isHigh : ∀ value ∈ high, Piece.IsHigh value) (character : Char)
    (pieces : List Piece) :
    ((settle quotation high).pushChar character).followed? none pieces =
      quotation.followed? high (.escaped character :: pieces) := by
  cases high with
  | none => exact followed?_pushChar character pieces
  | some value =>
      have none := Piece.meaning?_high (isHigh value rfl) (.escaped character :: pieces) nofun
      simp [settle, Quotation.spoil, Quotation.pushChar, Quotation.followed?, none]

theorem pushCode_followed (quotation : Quotation) (isHigh : ∀ value ∈ high, Piece.IsHigh value)
    (value : Nat) :
    ∃ next half, pushCode quotation high value = .string next half ∧
      (∀ value ∈ half, Piece.IsHigh value) ∧ ∀ pieces,
        next.followed? half pieces = quotation.followed? high (.unit value :: pieces) := by
  cases high with
  | some first =>
      have isHigh := isHigh first rfl
      simp only [pushCode, Bool.and_eq_true, decide_eq_true_eq]
      split
      next isLow =>
        refine ⟨_, _, rfl, nofun, fun pieces => ?_⟩
        have joined := Piece.meaning?_pair isHigh isLow pieces
        rw [followed?_pushChar]
        simp [Quotation.followed?, joined, Piece.pair]
      next other =>
        refine ⟨_, _, rfl, nofun, fun pieces => ?_⟩
        have none := Piece.meaning?_high isHigh (.unit value :: pieces)
          fun low after same => by
            cases same
            exact other
        rw [followed?_spoil]
        simp [Quotation.followed?, none]
  | none =>
      simp only [pushCode, Bool.and_eq_true, decide_eq_true_eq]
      split_ifs with isHigh isLow
      · exact ⟨_, _, rfl, fun _ same => Option.some.inj same ▸ isHigh, fun _ => rfl⟩
      · refine ⟨_, _, rfl, nofun, fun pieces => ?_⟩
        rw [followed?_spoil]
        simp [Quotation.followed?, Piece.meaning?_low isLow pieces]
      · refine ⟨_, _, rfl, nofun, fun pieces => ?_⟩
        have scalar := Piece.meaning?_scalar isHigh isLow pieces
        rw [followed?_pushChar]
        simp [Quotation.followed?, scalar]

theorem Piece.Written.scan {piece : Piece} {bytes : List UInt8} (written : piece.Written bytes)
    (isHigh : ∀ value ∈ high, Piece.IsHigh value) :
    ∃ next half,
      bytes.foldlM Scanner.step ⟨.string quotation high, tokens⟩ =
          some ⟨.string next half, tokens⟩ ∧
        (∀ value ∈ half, Piece.IsHigh value) ∧ ∀ pieces,
          next.followed? half pieces = quotation.followed? high (piece :: pieces) := by
  cases written with
  | plain visible unquoted unescaped =>
      refine ⟨_, none, ?_, nofun, followed?_plain isHigh⟩
      simp [Scanner.step, unquoted, unescaped, visible]
  | @escaped letter character stands =>
      refine ⟨_, none, ?_, nofun, followed?_escaped isHigh character⟩
      have other : ¬ letter = 0x75 := by
        rintro rfl
        cases stands
      simp [Scanner.step, stands, other]
  | unit one two three four =>
      obtain ⟨next, half, placed, isHigh, followed⟩ :=
        pushCode_followed quotation isHigh _
      refine ⟨next, half, ?_, isHigh, followed⟩
      simp [Scanner.step, one, two, three, four, placed]

theorem scan_pieces {pieces : List Piece} {written : List (List UInt8)}
    (each : List.Forall₂ Piece.Written pieces written) (quotation : Quotation) (high : Option Nat)
    (isHigh : ∀ value ∈ high, Piece.IsHigh value) (tokens : List Token) :
    ∃ next half,
      written.flatten.foldlM Scanner.step ⟨.string quotation high, tokens⟩ =
          some ⟨.string next half, tokens⟩ ∧
        (settle next half).text? = quotation.followed? high pieces := by
  induction each generalizing quotation high with
  | nil => exact ⟨quotation, high, rfl, text?_settle isHigh⟩
  | cons first _ ih =>
      obtain ⟨next, half, run, isHigh, followed⟩ := first.scan isHigh
      obtain ⟨last, end', rest, text⟩ := ih next half isHigh
      refine ⟨last, end', ?_, by rw [text, followed]⟩
      rw [List.flatten_cons, foldlM_append_of_eq_some run, rest]

theorem scan_string {pieces : List Piece} {written : List (List UInt8)}
    (each : List.Forall₂ Piece.Written pieces written) :
    (ascii "\"" ++ written.flatten ++ ascii "\"").foldlM Scanner.step ⟨.between, tokens⟩ =
      some ⟨.between, .string (Piece.text? pieces) :: tokens⟩ := by
  obtain ⟨next, half, run, text⟩ :=
    scan_pieces each .empty none nofun tokens
  have opened : Scanner.step ⟨.between, tokens⟩ 0x22 = some ⟨.string .empty none, tokens⟩ := rfl
  have closed : Scanner.step ⟨.string next half, tokens⟩ 0x22 =
      some ⟨.between, .string (Piece.text? pieces) :: tokens⟩ := by
    rw [Scanner.step]
    simp only [beq_self_eq_true, if_true, text]
    simp [Quotation.followed?, Quotation.empty, Piece.text?, emit]
  rw [show ascii "\"" = [0x22] from rfl, List.append_assoc, List.singleton_append,
    foldlM_cons_of_eq_some opened, foldlM_append_of_eq_some run, foldlM_cons_of_eq_some closed]
  rfl

end Strings

section

variable {scanner : Scanner} {taken tokens : List Token} {token : Token} {bytes : List UInt8}

def Parts (bytes : List UInt8) : Prop := ∃ byte rest, bytes = byte :: rest ∧ Cuts byte

theorem Took.foldlM_eq (took : Took scanner taken) (parts : Parts bytes) :
    bytes.foldlM Scanner.step scanner = bytes.foldlM Scanner.step ⟨.between, taken⟩ := by
  obtain ⟨byte, rest, rfl, cuts⟩ := parts
  rw [List.foldlM_cons, List.foldlM_cons, took.step cuts, Took.between.step cuts]

theorem Lexeme.parts (lexeme : Lexeme bytes token) : Parts bytes ∨ token.IsNumber := by
  cases lexeme with
  | number numeral => exact .inr ⟨_, rfl⟩
  | string => exact .inl ⟨0x22, _, rfl, by decide⟩
  | _ => exact .inl ⟨_, _, rfl, by decide⟩

theorem Lexeme.scan (lexeme : Lexeme bytes token) :
    ∃ next, bytes.foldlM Scanner.step ⟨.between, taken⟩ = some next ∧
      Took next (token :: taken) := by
  cases lexeme with
  | number numeral =>
      obtain ⟨part, spelling, complete, run, written⟩ := numeral.scan taken
      exact ⟨_, run, written ▸ .number complete⟩
  | string each => exact ⟨_, scan_string each, .between⟩
  | _ => exact ⟨_, rfl, .between⟩

def Beside (first second : Token) : Prop := ¬ (first.IsNumber ∧ second.IsNumber)

theorem Took.lexeme (took : Took scanner taken) (lexeme : Lexeme bytes token)
    (beside : ∀ last ∈ taken.head?, Beside last token) :
    ∃ next, bytes.foldlM Scanner.step scanner = some next ∧ Took next (token :: taken) := by
  obtain parts | isNumber := lexeme.parts
  · rw [took.foldlM_eq parts]
    exact lexeme.scan
  · cases took with
    | between => exact lexeme.scan
    | number => exact absurd ⟨⟨_, rfl⟩, isNumber⟩ (beside _ rfl)

theorem Took.spread {lexemes : List (List UInt8)} {text : List UInt8} (took : Took scanner taken)
    (each : List.Forall₂ Lexeme lexemes tokens) (spread : Spread lexemes text)
    (beside : List.IsChain Beside (taken.head?.toList ++ tokens)) :
    ∃ next, text.foldlM Scanner.step scanner = some next ∧
      Took next (tokens.reverse ++ taken) := by
  induction spread generalizing scanner taken tokens with
  | nil blank =>
      cases each
      exact took.blanks blank
  | cons blank _ ih =>
      obtain _ | @⟨_, token, _, _, lexeme, each⟩ := each
      obtain ⟨rested, blanks, took⟩ := took.blanks blank
      have first : ∀ last ∈ taken.head?, Beside last token := by
        intro last same
        rw [Option.mem_def.mp same] at beside
        exact (List.isChain_cons_cons.mp beside).1
      obtain ⟨next, run, took⟩ := took.lexeme lexeme first
      obtain ⟨last, rest, took⟩ := ih took each (beside.suffix (List.suffix_append _ _))
      refine ⟨last, ?_, ?_⟩
      · rw [List.append_assoc, foldlM_append_of_eq_some blanks, foldlM_append_of_eq_some run, rest]
      · simpa using took

/-- The tokens of a spelled text are those that it was spelled from. -/
theorem scan?_of_spread {lexemes : List (List UInt8)} {text : List UInt8}
    (each : List.Forall₂ Lexeme lexemes tokens) (spread : Spread lexemes text)
    (beside : List.IsChain Beside tokens) : scan? text = some tokens := by
  obtain ⟨next, run, took⟩ := Took.spread (.between : Took start []) each spread beside
  rw [scan?, start, run, Option.bind_some, took.finish?]
  simp

end

end Token

end Tenancy.Json
