import Mathlib.Tactic.SplitIfs
import Tenancy.Proofs.Text.Percent
import Tenancy.Web.Path

/-!
Paths of URLs and their segments: which are written as they stand, and what they mean to the other
end, which cuts a path at its slashes and decodes the segments.
-/

namespace Tenancy.Web.Path

def stands (character : Char) : Bool :=
  keepsInSegment character && character != '/' && character != '\\'

structure AreSound (segments : List (List Char)) : Prop where
  nonempty : segments ≠ []
  stand : ∀ segment ∈ segments, ∀ character ∈ segment, stands character
  ordinary : ∀ segment ∈ segments, isSingleDot segment = false ∧ isDoubleDot segment = false

section

variable {character : Char}

theorem keeps_of_stands (plain : stands character) :
    keepsInSegment character = true ∧ character ≠ '/' ∧ character ≠ '\\' := by
  simpa [stands, and_assoc] using plain

theorem bounds_of_stands (plain : stands character) :
    0x20 < character.toNat ∧ character.toNat < 128 := by
  obtain ⟨kept, -, -⟩ := keeps_of_stands plain
  simp only [keepsInSegment, Text.Percent.keeps, Bool.and_eq_true, decide_eq_true_eq] at kept
  have blank : character ≠ ' ' := by
    rintro rfl
    exact absurd kept.2 (by decide)
  have code : character.toNat ≠ ' '.toNat := fun same => blank (Char.toNat_inj.mp same)
  have space : ' '.toNat = 0x20 := rfl
  omega

theorem not_isSlash_of_stands (plain : stands character) : isSlash true character = false := by
  obtain ⟨-, slash, backslash⟩ := keeps_of_stands plain
  simp [isSlash, slash, backslash]

theorem stands_of_inWord (plain : Text.inWord character) : stands character :=
  Text.forall_ascii (P := fun character => Text.inWord character → stands character)
    (by decide +kernel) (Text.ascii_of_inWord plain) plain

end

theorem join_cons (segment : List Char) (segments : List (List Char)) :
    join (segment :: segments) = '/' :: (segment ++ join segments) := by
  rw [join, List.flatMap_cons, List.cons_append]
  rfl

theorem cut_join {isCut : Char → Bool} (slash : isCut '/') {segment : List Char}
    {segments : List (List Char)}
    (whole : ∀ own ∈ segment :: segments, ∀ character ∈ own, isCut character = false) :
    Text.cut isCut (segment ++ join segments) = segment :: segments := by
  induction segments generalizing segment with
  | nil => rw [join, List.flatMap_nil, List.append_nil, Text.cut_of_forall (whole _ (by simp))]
  | cons next segments ih =>
      rw [List.forall_mem_cons] at whole
      rw [join_cons, Text.cut_append _ whole.1 slash, ih whole.2]

theorem cut_slash_join {segments : List (List Char)} (nonempty : segments ≠ [])
    (whole : ∀ segment ∈ segments, '/' ∉ segment) :
    Text.cut (· == '/') (join segments) = [] :: segments := by
  obtain ⟨segment, rest, rfl⟩ := List.exists_cons_of_ne_nil nonempty
  rw [join_cons, Text.cut, if_pos (beq_self_eq_true '/'), cut_join rfl]
  intro own member character inside
  exact beq_eq_false_iff_ne.mpr fun same => whole own member (same ▸ inside)

theorem cut_join_append {isCut : Char → Bool} (slash : isCut '/') {segment : List Char}
    {segments : List (List Char)}
    (whole : ∀ own ∈ segment :: segments, ∀ character ∈ own, isCut character = false)
    (rest : List Char) :
    Text.cut isCut (segment ++ join segments ++ '/' :: rest) =
      segment :: segments ++ Text.cut isCut rest := by
  induction segments generalizing segment with
  | nil =>
      rw [join, List.flatMap_nil, List.append_nil, Text.cut_append _ (whole _ (by simp)) slash]
      rfl
  | cons next segments ih =>
      rw [List.forall_mem_cons] at whole
      rw [join_cons, List.append_assoc, List.cons_append, Text.cut_append _ whole.1 slash,
        ih whole.2]
      rfl

theorem resolve_of_ordinary {segments path : List (List Char)}
    (ordinary : ∀ own ∈ segments, isSingleDot own = false ∧ isDoubleDot own = false) :
    resolve false path segments = (segments.map (writeSegment false)).reverse ++ path := by
  induction segments generalizing path with
  | nil => rfl
  | cons segment segments ih =>
      rw [List.forall_mem_cons] at ordinary
      rw [resolve, ordinary.1.1, ordinary.1.2]
      simp only [Bool.or_self, Bool.false_eq_true, if_false, Bool.false_and, ih ordinary.2]
      simp

theorem written_slash (text : List Char) :
    Path.written true ('/' :: text) =
      join (resolve false [] (Text.cut (isSlash true) text)).reverse := rfl

theorem written_of_ordinary {segments : List (List Char)} (nonempty : segments ≠ [])
    (whole : ∀ own ∈ segments, ∀ character ∈ own, isSlash true character = false)
    (ordinary : ∀ own ∈ segments, isSingleDot own = false ∧ isDoubleDot own = false) :
    Path.written true (join segments) =
      join (segments.map (Text.Percent.encode keepsInSegment)) := by
  obtain ⟨segment, rest, rfl⟩ := List.exists_cons_of_ne_nil nonempty
  rw [join_cons, written_slash, cut_join rfl whole, resolve_of_ordinary ordinary, List.append_nil,
    List.reverse_reverse]
  rfl

namespace AreSound

variable {segments : List (List Char)}

theorem slashless (sound : AreSound segments) :
    ∀ own ∈ segments, ∀ character ∈ own, isSlash true character = false :=
  fun own member character inside => not_isSlash_of_stands (sound.stand own member character inside)

theorem written (sound : AreSound segments) :
    Path.written true (join segments) = join segments := by
  have kept : segments.map (Text.Percent.encode keepsInSegment) = segments := by
    refine (List.map_congr_left fun own member => ?_).trans (List.map_id _)
    exact Text.Percent.encode_of_forall fun character inside =>
      (keeps_of_stands (sound.stand own member character inside)).1
  rw [written_of_ordinary sound.nonempty sound.slashless sound.ordinary, kept]

theorem bounds (sound : AreSound segments) :
    ∀ character ∈ join segments, 0x20 < character.toNat ∧ character.toNat < 128 := by
  intro character member
  obtain ⟨segment, inside, rest⟩ := List.mem_flatMap.mp member
  obtain rfl | rest := List.mem_cons.mp rest
  · decide
  · exact bounds_of_stands (sound.stand segment inside character rest)

theorem not_mem (sound : AreSound segments) {mark : Char} (unkept : keepsInSegment mark = false)
    (other : mark ≠ '/') : mark ∉ join segments := by
  intro member
  obtain ⟨segment, inside, rest⟩ := List.mem_flatMap.mp member
  obtain rfl | rest := List.mem_cons.mp rest
  · exact other rfl
  · have kept := (keeps_of_stands (sound.stand segment inside mark rest)).1
    exact absurd (unkept.symm.trans kept) Bool.false_ne_true

end AreSound

theorem leaves_keepsInSegment : Text.Percent.Leaves keepsInSegment := by
  refine ⟨by decide, fun character digit => ?_⟩
  exact Text.forall_ascii (P := fun character =>
    (Text.Percent.hexValue? character).isSome → keepsInSegment character) (by decide +kernel)
    (Text.Percent.ascii_of_digit digit) digit

theorem slash_not_mem_encode {segment : List Char}
    (whole : ∀ character ∈ segment, isSlash true character = false) :
    '/' ∉ Text.Percent.encode keepsInSegment segment := by
  intro member
  obtain ⟨character, inside, encoded⟩ := List.mem_flatMap.mp member
  unfold Text.Percent.encodeChar at encoded
  split at encoded
  · obtain rfl := List.mem_singleton.mp encoded
    exact absurd (whole '/' inside) (by decide)
  · exact Text.Percent.not_mem_encodeBytes (by decide) (by decide) _ encoded

theorem mem_parent {own : List Char} {path : List (List Char)} (member : own ∈ parent path) :
    own ∈ path := by
  unfold parent at member
  split at member
  · exact member
  · split_ifs at member
    · exact member
    · exact List.mem_cons_of_mem _ member

theorem resolve_cons (path : List (List Char)) (segment : List Char) (rest : List (List Char)) :
    ∃ next, resolve false path (segment :: rest) = resolve false next rest ∧
      ∀ own ∈ next, own = [] ∨ own ∈ path ∨
        own = Text.Percent.encode keepsInSegment segment := by
  have stem : ∀ own ∈ if isDoubleDot segment then parent path else path, own ∈ path := by
    intro own inside
    split at inside
    · exact mem_parent inside
    · exact inside
  rw [resolve]
  split
  next dots =>
    refine ⟨_, rfl, fun own inside => ?_⟩
    split at inside
    · obtain empty | inside := List.mem_cons.mp inside
      · exact .inl empty
      · exact .inr (.inl (stem own inside))
    · exact .inr (.inl (stem own inside))
  next plain =>
    refine ⟨_, rfl, fun own inside => ?_⟩
    obtain written | inside := List.mem_cons.mp inside
    · exact .inr (.inr written)
    · exact .inr (.inl inside)

/-- What a path consists of once its dot segments are resolved. -/
theorem mem_resolve {own : List Char} {path segments : List (List Char)}
    (member : own ∈ resolve false path segments) :
    own = [] ∨ own ∈ path ∨
      ∃ segment ∈ segments, own = Text.Percent.encode keepsInSegment segment := by
  induction segments generalizing path with
  | nil => exact .inr (.inl member)
  | cons segment rest ih =>
      obtain ⟨next, goes, known⟩ := resolve_cons path segment rest
      rw [goes] at member
      obtain empty | inside | ⟨other, inside, written⟩ := ih member
      · exact .inl empty
      · obtain empty | inside | written := known own inside
        · exact .inl empty
        · exact .inr (.inl inside)
        · exact .inr (.inr ⟨segment, List.mem_cons_self, written⟩)
      · exact .inr (.inr ⟨other, List.mem_cons_of_mem _ inside, written⟩)

def heard (path : List Char) : List String :=
  (Text.cut (· == '/') path).map Text.Percent.meaning

theorem heard_join {segments : List (List Char)} (nonempty : segments ≠ [])
    (whole : ∀ segment ∈ segments, '/' ∉ segment) :
    heard (join segments) = "" :: segments.map Text.Percent.meaning := by
  rw [heard, cut_slash_join nonempty whole]
  rfl

theorem mem_heard {segments : List (List Char)} {own : String}
    (whole : ∀ segment ∈ segments, ∀ character ∈ segment, isSlash true character = false)
    (member : own ∈ heard (join (resolve false [] segments).reverse)) :
    own = "" ∨ ∃ segment ∈ segments, Text.Percent.meaning segment = own := by
  have origin {written : List Char} (member : written ∈ (resolve false [] segments).reverse) :
      written = [] ∨ ∃ segment ∈ segments,
        written = Text.Percent.encode keepsInSegment segment := by
    obtain empty | inside | encoded := mem_resolve (List.mem_reverse.mp member)
    · exact .inl empty
    · exact absurd inside List.not_mem_nil
    · exact .inr encoded
  by_cases empty : (resolve false [] segments).reverse = []
  · rw [empty] at member
    exact .inl (List.mem_singleton.mp member)
  · rw [heard_join empty, List.mem_cons, List.mem_map] at member
    · obtain rfl | ⟨written, inside, rfl⟩ := member
      · exact .inl rfl
      · obtain rfl | ⟨segment, stood, rfl⟩ := origin inside
        · exact .inl rfl
        · exact .inr ⟨segment, stood, (leaves_keepsInSegment.meaning_encode segment).symm⟩
    · intro written inside
      obtain rfl | ⟨segment, stood, rfl⟩ := origin inside
      · exact List.not_mem_nil
      · exact slash_not_mem_encode (whole segment stood)

end Tenancy.Web.Path
