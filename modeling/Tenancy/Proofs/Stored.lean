import Tenancy.Proofs.Json.Writing
import Tenancy.Stored

/-!
Records are read back from what is written for them. Nothing that a record can hold is lost: any
text, a tag or none, numbers up to the limit of their width.
-/

namespace Tenancy

open Json (Node)
open Json.Token (Lexeme Spread)

variable {α : Type}

def decode? (ofNode? : Node → Option α) (text : List UInt8) : Option α :=
  (Node.read? text).bind ofNode?

/-- What is written is read as it was, also when blanks are put around and between its tokens. -/
structure ReadsBack (toJson : α → Json) (ofNode? : Node → Option α) : Prop where
  tokens (record : α) : List.Forall₂ Lexeme (toJson record).lexemes (toJson record).node.tokens
  written (record : α) :
    (toJson record).lexemes.flatten = (toJson record).render.toUTF8.toList
  spread (record : α) (text : List UInt8) (spread : Spread (toJson record).lexemes text) :
    decode? ofNode? text = some record
  rendered (record : α) : decode? ofNode? (toJson record).render.toUTF8.toList = some record
  again (text : List UInt8) :
    ((decode? ofNode? text).bind fun record =>
      decode? ofNode? (toJson record).render.toUTF8.toList) = decode? ofNode? text

theorem ReadsBack.of_node {toJson : α → Json} {ofNode? : Node → Option α}
    (same : ∀ record, ofNode? (toJson record).node = some record) : ReadsBack toJson ofNode? := by
  have spread (record : α) (text : List UInt8) (spread : Spread (toJson record).lexemes text) :
      decode? ofNode? text = some record := by
    rw [decode?, Json.read?_spread _ spread, Option.bind_some, same]
  have rendered (record : α) :
      decode? ofNode? (toJson record).render.toUTF8.toList = some record := by
    rw [← Json.lexemes_render]
    exact spread record _ (Json.spread_flatten _)
  refine ⟨fun record => Json.lexeme_lexemes _, fun record => Json.lexemes_render _, spread,
    rendered, fun text => ?_⟩
  cases decode? ofNode? text with
  | none => rfl
  | some record => exact rendered record

section

theorem ofNat_node (number : Nat) : (Json.ofNat number).node = .number (Nat.toDigits 10 number) := by
  rw [Json.ofNat, Json.node, Json.writeNumber, if_pos rfl, Json.toString_int, Int.natAbs_natCast,
    Json.sign, if_neg (Int.not_lt.mpr (Int.natCast_nonneg number)), List.nil_append]

theorem natBelow?_ofNat {number bound : Nat} (below : number < bound) :
    (Json.ofNat number).node.natBelow? bound = some number := by
  have plain : (Nat.toDigits 10 number).all Char.isDigit :=
    List.all_eq_true.mpr fun _ member => Json.isDigit_of_mem member
  have value : (Nat.toDigits 10 number).foldl
      (fun value digit => 10 * value + (digit.toNat - 48)) 0 = number :=
    Nat.ofDigitChars_toDigits (by decide) (by decide)
  rw [ofNat_node, Node.natBelow?, if_pos plain, value]
  exact if_pos below

theorem mapM_itemNodes {toJson : α → Json} {ofNode? : Node → Option α}
    (same : ∀ record, ofNode? (toJson record).node = some record) (records : List α) :
    (Json.itemNodes (records.map toJson)).mapM ofNode? = some records := by
  induction records with
  | nil => rfl
  | cons record records ih =>
      rw [List.map_cons, Json.itemNodes, List.mapM_cons, same, ih]
      rfl

theorem Kind.ofNode?_toJson (kind : Kind) : Kind.ofNode? kind.toJson.node = some kind := by
  cases kind <;> rfl

theorem Appliance.ofNode?_toJson (appliance : Appliance) :
    Appliance.ofNode? appliance.toJson.node = some appliance := rfl

theorem optionalField?_tag (tag : UInt16) :
    optionalField? tagOfNode? (some (Json.ofNat tag.toNat).node) = some (some tag) := by
  have read : tagOfNode? (Json.ofNat tag.toNat).node = some tag := by
    rw [tagOfNode?, natBelow?_ofNat tag.toNat_lt, Option.map_some, UInt16.ofNat_toNat]
  rw [ofNat_node] at read ⊢
  rw [optionalField?, Node.optional?, read, Option.map_some]
  exact nofun

theorem Resource.ofNode?_toJson (resource : Resource) :
    Resource.ofNode? resource.toJson.node = some resource := by
  obtain ⟨kind, name, partition, tag⟩ := resource
  have values : layout.values? (toJson ⟨kind, name, partition, tag⟩).node =
      some [some kind.toJson.node, some (.string (some name)), some (.string (some partition)),
        tag.map fun tag => (Json.ofNat tag.toNat).node] := by
    cases tag <;> rfl
  have marked : optionalField? tagOfNode? (tag.map fun tag => (Json.ofNat tag.toNat).node) =
      some tag := by
    cases tag with
    | none => rfl
    | some tag => exact optionalField?_tag tag
  rw [ofNode?, values]
  simp [Kind.ofNode?_toJson, Node.text?, marked]

theorem Service.ofNode?_toJson (service : Service) :
    Service.ofNode? service.toJson.node = some service := by
  obtain ⟨tenant, group, appliances⟩ := service
  have values : layout.values? (toJson ⟨tenant, group, appliances⟩).node =
      some [some (.string (some tenant)), some ((group.map Json.string).getD .null).node,
        some (.array (Json.itemNodes (appliances.map Appliance.toJson)))] := rfl
  have grouped : optionalField? Node.text? (some ((group.map Json.string).getD .null).node) =
      some group := by
    cases group <;> rfl
  rw [ofNode?, values]
  simp [Node.text?, grouped, Node.items?, mapM_itemNodes Appliance.ofNode?_toJson]

theorem Span.ofNode?_toJson (span : Span) : Span.ofNode? span.toJson.node = some span := by
  obtain ⟨seconds, nanoseconds⟩ := span
  have values : layout.values? (toJson ⟨seconds, nanoseconds⟩).node =
      some [some (Json.ofNat seconds.toNat).node, some (Json.ofNat nanoseconds.val).node] := rfl
  have small : nanoseconds.val < UInt32.size := nanoseconds.isLt.trans (by decide)
  have carried : carry? seconds.toNat nanoseconds.val = some ⟨seconds, nanoseconds⟩ := by
    have whole : nanoseconds.val / 1000000000 = 0 := Nat.div_eq_of_lt nanoseconds.isLt
    have rest : nanosecondsOf nanoseconds.val = nanoseconds :=
      Fin.ext (Nat.mod_eq_of_lt nanoseconds.isLt)
    simp only [carry?, whole, Nat.add_zero, seconds.toNat_lt_size, if_true, UInt64.ofNat_toNat,
      rest]
  rw [ofNode?, values]
  simp [natBelow?_ofNat seconds.toNat_lt_size, natBelow?_ofNat small, carried]

theorem RetryPolicy.ofNode?_toJson (policy : RetryPolicy) :
    RetryPolicy.ofNode? policy.toJson.node = some policy := by
  obtain ⟨attempts, interval⟩ := policy
  have values : layout.values? (toJson ⟨attempts, interval⟩).node =
      some [some (Json.ofNat attempts.toNat).node, some interval.toJson.node] := rfl
  rw [ofNode?, values]
  simp [natBelow?_ofNat attempts.toNat_lt_size, Span.ofNode?_toJson]

theorem Settings.ofNode?_toJson (settings : Settings) :
    Settings.ofNode? settings.toJson.node = some settings := by
  obtain ⟨group, retry⟩ := settings
  have values : layout.values? (toJson ⟨group, retry⟩).node =
      some [some (.string (some group)), some retry.toJson.node] := rfl
  rw [ofNode?, values]
  simp [Node.text?, RetryPolicy.ofNode?_toJson]

end

/-- Every record of the library is read back from its text. -/
theorem records_read_back :
    ReadsBack Appliance.toJson Appliance.ofNode? ∧ ReadsBack Resource.toJson Resource.ofNode? ∧
      ReadsBack Service.toJson Service.ofNode? ∧ ReadsBack RetryPolicy.toJson RetryPolicy.ofNode? ∧
        ReadsBack Settings.toJson Settings.ofNode? :=
  ⟨.of_node Appliance.ofNode?_toJson, .of_node Resource.ofNode?_toJson,
    .of_node Service.ofNode?_toJson, .of_node RetryPolicy.ofNode?_toJson,
    .of_node Settings.ofNode?_toJson⟩

example : decode? Appliance.ofNode? " \x7b \"hostname\" :\t\"\\ud83d\\ude00\" \x7d\n".toUTF8.toList =
    some ⟨"😀"⟩ := by
  cbv

end Tenancy
