import Mathlib.Data.List.TakeWhile
import Tenancy.Proofs.Web.Path
import Tenancy.Web.Http

/-!
URLs of the web: how any text behind an authority is read, and those that are read as they stand,
with a host in its written form and a path that needs no encoding and has no dot segments.
-/

namespace Tenancy.Web

def IsScheme (scheme : String) : Prop := scheme = "http" ∨ scheme = "https"

instance (scheme : String) : Decidable (IsScheme scheme) := inferInstanceAs (Decidable (_ ∨ _))

/-- A text that is an authority and nothing else, and one that can be spoken to. -/
structure IsAuthority (scheme host : String) (authority : Url.Authority) : Prop where
  plain : ∀ character ∈ host.toList, character ∉ "/\\?#\t\n\r".toList
  read : Url.authority? scheme host.toList = some (authority, [])
  named : authority.host ≠ []
  spoken : ∀ character ∈ authority.host, character ∉ "\"\x60\x7b\x7d".toList

def Url.writePlace (host : List Char) (port : Option Nat) : List Char :=
  host ++ (match port with
    | none => []
    | some port => ':' :: (toString port).toList)

structure IsHost (scheme host : String) : Prop where
  plain : ∀ character ∈ host.toList, character ∉ "/\\?#\t\n\r\"\x60\x7b\x7d".toList
  read : ∃ name port, name ≠ [] ∧
    Url.authority? scheme host.toList = some (⟨none, name, port⟩, []) ∧
      Url.writePlace name port = host.toList

theorem IsHost.isAuthority {scheme host : String} (valid : IsHost scheme host) :
    ∃ name port, name ≠ [] ∧ Url.writePlace name port = host.toList ∧
      IsAuthority scheme host ⟨none, name, port⟩ := by
  obtain ⟨name, port, named, read, written⟩ := valid.read
  refine ⟨name, port, named, written, fun character member barred => ?_, read, named,
    fun character member barred => ?_⟩
  · exact valid.plain character member (List.mem_append_left "\"\x60\x7b\x7d".toList barred)
  · have inside : character ∈ host.toList := by
      rw [← written]
      exact List.mem_append_left _ member
    exact valid.plain character inside (List.mem_append_right "/\\?#\t\n\r".toList barred)

namespace Url

open Web.Path (AreSound isSlash join keepsInSegment)

def isBlank (character : Char) : Bool := character.toNat ≤ 0x20

def isUnbroken (character : Char) : Bool :=
  character != '\t' && character != '\n' && character != '\r'

/-- What reading a URL keeps of its end: no blanks behind it, no tabs and line breaks inside. -/
def keepEnd (text : List Char) : List Char :=
  (text.reverse.dropWhile isBlank).reverse.filter isUnbroken

def pathPart (text : List Char) : List Char :=
  (splitOff '?' (splitOff '#' (keepEnd text)).1).1

def under (scheme : String) (authority : Authority) (text : List Char) : Url :=
  let (beforeFragment, fragment) := splitOff '#' (keepEnd text)
  let (path, query) := splitOff '?' beforeFragment
  { scheme
    user := authority.user
    host := some authority.host
    port := authority.port
    path := Path.written true ('/' :: path)
    query := query.map (Text.Percent.encode (keepsInQuery true))
    fragment := fragment.map (Text.Percent.encode keepsInFragment) }

variable {scheme host : String} {authority : Authority} {segments : List (List Char)}
  {text : List Char}

theorem under_path :
    (under scheme authority text).path = Path.written true ('/' :: pathPart text) := rfl

theorem under_place : (under scheme authority text).scheme = scheme ∧
    (under scheme authority text).host = some authority.host ∧
      (under scheme authority text).port = authority.port := ⟨rfl, rfl, rfl⟩

theorem dropWhile_append_stop {drops : Char → Bool} {mark : Char} (stops : drops mark = false)
    (before after : List Char) :
    (before ++ mark :: after).dropWhile drops = before.dropWhile drops ++ mark :: after := by
  rw [List.dropWhile_append, List.dropWhile_cons_of_neg (by simp [stops])]
  split
  next empty => rw [List.isEmpty_iff.mp empty, List.nil_append]
  next => rfl

theorem strip_cons {first : Char} (head : isBlank first = false) :
    strip (first :: text) = keepEnd (first :: text) := by
  have kept : (first :: text).dropWhile isBlank = first :: text :=
    List.dropWhile_cons_of_neg (by simp [head])
  exact congrArg (fun text => (text.reverse.dropWhile isBlank).reverse.filter isUnbroken) kept

theorem isUnbroken_of_not_isBlank {character : Char} (plain : isBlank character = false) :
    isUnbroken character := by
  simp only [isUnbroken, Bool.and_eq_true, bne_iff_ne]
  refine ⟨⟨?_, ?_⟩, ?_⟩ <;> rintro rfl <;> exact absurd plain (by decide)

theorem keepEnd_append_filter {mark : Char} {before : List Char} (stop : isBlank mark = false) :
    keepEnd (before ++ mark :: text) = before.filter isUnbroken ++ mark :: keepEnd text := by
  have reversed : (before ++ mark :: text).reverse = text.reverse ++ mark :: before.reverse := by
    simp
  have restored (rest : List Char) :
      (rest ++ mark :: before.reverse).reverse = before ++ mark :: rest.reverse := by simp
  rw [keepEnd, reversed, dropWhile_append_stop stop, restored, List.filter_append,
    List.filter_cons_of_pos (isUnbroken_of_not_isBlank stop)]
  rfl

theorem keepEnd_append {mark : Char} {before : List Char} (stop : isBlank mark = false)
    (inner : ∀ character ∈ before, isUnbroken character) :
    keepEnd (before ++ mark :: text) = before ++ mark :: keepEnd text := by
  rw [keepEnd_append_filter stop, List.filter_eq_self.mpr inner]

theorem trimmed_sublist (text : List Char) :
    List.Sublist (text.reverse.dropWhile isBlank).reverse text := by
  have kept := (@List.dropWhile_sublist _ text.reverse isBlank).reverse
  rwa [List.reverse_reverse] at kept

theorem keepEnd_sublist (text : List Char) : List.Sublist (keepEnd text) text :=
  List.filter_sublist.trans (trimmed_sublist text)

theorem strip_sublist (text : List Char) : List.Sublist (strip text) text := by
  have whole : strip text = keepEnd (text.dropWhile isBlank) := rfl
  rw [whole]
  exact (keepEnd_sublist _).trans (List.dropWhile_sublist _)

def EndsPlainly (text : List Char) : Prop :=
  ∀ character ∈ text.getLast?, isBlank character = false

instance (text : List Char) : Decidable (EndsPlainly text) :=
  decidable_of_iff (text.getLast?.all (!isBlank ·)) <| by
    rw [EndsPlainly]
    cases text.getLast? <;> simp

theorem endsPlainly_iff :
    EndsPlainly text ↔ (text.reverse.dropWhile isBlank).reverse = text := by
  rw [EndsPlainly, ← List.head?_reverse, List.reverse_eq_iff]
  cases text.reverse with
  | nil => simp
  | cons final before =>
      rw [List.head?_cons, List.dropWhile_eq_self_iff]
      simp

theorem keepEnd_eq_self_iff :
    keepEnd text = text ↔ EndsPlainly text ∧ ∀ character ∈ text, isUnbroken character := by
  constructor
  · intro same
    have whole : (text.reverse.dropWhile isBlank).reverse = text := by
      refine (trimmed_sublist text).eq_of_length_le ?_
      have filtered : (keepEnd text).length ≤ (text.reverse.dropWhile isBlank).reverse.length :=
        List.filter_sublist.length_le
      rwa [same] at filtered
    rw [keepEnd, whole] at same
    exact ⟨endsPlainly_iff.mpr whole, List.filter_eq_self.mp same⟩
  · rintro ⟨last, inner⟩
    rw [keepEnd, endsPlainly_iff.mp last, List.filter_eq_self.mpr inner]

theorem splitOff_fst (mark : Char) (text : List Char) :
    (splitOff mark text).1 = text.takeWhile (· != mark) := by
  simp only [splitOff]
  split <;> rfl

theorem splitOff_append {mark : Char} {before : List Char} (absent : mark ∉ before) :
    splitOff mark (before ++ text) =
      (before ++ (splitOff mark text).1, (splitOff mark text).2) := by
  have passed : ∀ character ∈ before, (character != mark) = true := by
    intro character member
    simpa using fun same : character = mark => absent (same ▸ member)
  unfold splitOff
  rw [List.takeWhile_append_of_pos passed]
  simp only [List.length_append, Nat.add_lt_add_iff_left]
  split
  · rw [Nat.add_assoc, List.drop_append]
    simp
  · rfl

theorem splitOff_of_not_mem {mark : Char} (absent : mark ∉ text) :
    splitOff mark text = (text, none) := by
  simpa [splitOff] using @splitOff_append [] mark text absent

theorem chars_of_scheme (web : IsScheme scheme) (rest : List Char) :
    ∃ first before, isBlank first = false ∧
      (∀ character ∈ first :: before, isUnbroken character) ∧
      scheme.toList = first :: before ∧
      scheme? (scheme.toList ++ ':' :: rest) = some (scheme, rest) := by
  obtain rfl | rfl := web
  · exact ⟨'h', "ttp".toList, by decide, Text.forall_of_all (by decide), rfl, rfl⟩
  · exact ⟨'h', "ttps".toList, by decide, Text.forall_of_all (by decide), rfl, rfl⟩

theorem isWeb_of_scheme (web : IsScheme scheme) : isWeb scheme = true ∧ isFile scheme = false := by
  obtain rfl | rfl := web <;> decide

theorem hierarchy?_behind (web : IsScheme scheme) (named : IsAuthority scheme host authority) :
    hierarchy? scheme ('/' :: '/' :: (host.toList ++ '/' :: text)) =
      some (some authority, Path.written true ('/' :: text)) := by
  obtain ⟨isWeb, isFile⟩ := isWeb_of_scheme web
  have slashless : ∀ own ∈ host.toList, isSlash true own = false := by
    intro own member
    have allowed := named.plain own member
    have slash : own ≠ '/' := fun same => allowed (by simp [same])
    have backslash : own ≠ '\\' := fun same => allowed (by simp [same])
    simp [isSlash, slash, backslash]
  have nonempty : host.toList ≠ [] := by
    intro empty
    have unread : authority? scheme [] = none := by obtain rfl | rfl := web <;> rfl
    have read := named.read
    rw [empty, unread] at read
    cases read
  have opened : ('/' :: '/' :: (host.toList ++ '/' :: text)).dropWhile (isSlash true) =
      host.toList ++ '/' :: text := by
    obtain ⟨first, rest, chars⟩ := List.exists_cons_of_ne_nil nonempty
    rw [chars] at slashless ⊢
    rw [List.dropWhile_cons_of_pos rfl, List.dropWhile_cons_of_pos rfl, List.cons_append,
      List.dropWhile_cons_of_neg (by simp [slashless first List.mem_cons_self])]
  have location : (host.toList ++ '/' :: text).takeWhile (fun own => !isSlash true own) =
      host.toList := by
    rw [List.takeWhile_append_of_pos fun own member => by simp [slashless own member],
      List.takeWhile_cons_of_neg (by decide), List.append_nil]
  simp only [hierarchy?, isFile, isWeb, Bool.false_eq_true, if_false, opened?, if_true, opened,
    location, named.read, List.drop_left, List.nil_append, Option.bind_eq_bind, Option.bind_some,
    Option.pure_def]

theorem read?_under (web : IsScheme scheme) (named : IsAuthority scheme host authority)
    (text : List Char) :
    read? (scheme ++ "://" ++ host ++ String.ofList ('/' :: text)) =
      some (under scheme authority text) := by
  obtain ⟨first, before, head, inner, chars, schemed⟩ :=
    chars_of_scheme web ('/' :: '/' :: (host.toList ++ '/' :: keepEnd text))
  have whole : (scheme ++ "://" ++ host ++ String.ofList ('/' :: text)).toList =
      first :: ((before ++ ':' :: '/' :: '/' :: host.toList) ++ '/' :: text) := by
    simp [chars]
  have plain : ∀ character ∈ first :: (before ++ ':' :: '/' :: '/' :: host.toList),
      isUnbroken character := by
    rw [← List.cons_append, List.forall_mem_append]
    refine ⟨inner, ?_⟩
    rw [List.forall_mem_cons, List.forall_mem_cons, List.forall_mem_cons]
    refine ⟨by decide, by decide, by decide, fun character member => ?_⟩
    have allowed := named.plain character member
    simp only [isUnbroken, Bool.and_eq_true, bne_iff_ne]
    refine ⟨⟨?_, ?_⟩, ?_⟩ <;> rintro rfl <;> exact allowed (by decide)
  have absent {mark : Char} (ends : mark = '#' ∨ mark = '?') :
      mark ∉ '/' :: '/' :: (host.toList ++ ['/']) := by
    have barred : mark ≠ '/' ∧ mark ∈ "/\\?#\t\n\r".toList := by
      obtain rfl | rfl := ends <;> decide
    simp only [List.mem_cons, List.mem_append, List.not_mem_nil, or_false, barred.1, false_or]
    exact fun member => named.plain mark member barred.2
  have behind (rest : List Char) : '/' :: '/' :: (host.toList ++ '/' :: rest) =
      '/' :: '/' :: (host.toList ++ ['/']) ++ rest := by simp
  have stripped : strip (scheme ++ "://" ++ host ++ String.ofList ('/' :: text)).toList =
      scheme.toList ++ ':' :: '/' :: '/' :: (host.toList ++ '/' :: keepEnd text) := by
    rw [whole, strip_cons head, ← List.cons_append, keepEnd_append (by decide) plain, chars]
    simp
  rw [read?, stripped, schemed]
  simp only [Option.bind_eq_bind, Option.bind_some]
  rw [behind, splitOff_append (absent (.inl rfl)), splitOff_append (absent (.inr rfl)), ← behind,
    hierarchy?_behind web named]
  simp only [Option.bind_some, (isWeb_of_scheme web).1]
  rfl

def plain (scheme : String) (name : List Char) (port : Option Nat)
    (segments : List (List Char)) (query : Option (List Char)) : Url :=
  ⟨scheme, none, some name, port, join segments, query, none⟩

theorem pathPart_eq (text : List Char) :
    pathPart text = ((keepEnd text).takeWhile (· != '#')).takeWhile (· != '?') := by
  rw [pathPart, splitOff_fst, splitOff_fst]

theorem pathPart_sublist (text : List Char) : List.Sublist (pathPart text) text := by
  rw [pathPart_eq]
  exact (List.takeWhile_sublist _).trans ((List.takeWhile_sublist _).trans (keepEnd_sublist text))

theorem pathPart_eq_self_iff :
    pathPart text = text ↔ EndsPlainly text ∧
      ∀ character ∈ text, isUnbroken character ∧ character ≠ '#' ∧ character ≠ '?' := by
  rw [pathPart_eq]
  constructor
  · intro same
    have first := @List.takeWhile_sublist _ (keepEnd text) (· != '#')
    have second := @List.takeWhile_sublist _ ((keepEnd text).takeWhile (· != '#')) (· != '?')
    rw [same] at second
    have kept : keepEnd text = text :=
      (keepEnd_sublist text).eq_of_length_le (second.trans first).length_le
    rw [kept] at same second
    have fragmentless : text.takeWhile (· != '#') = text :=
      (List.takeWhile_sublist _).eq_of_length_le second.length_le
    rw [fragmentless] at same
    obtain ⟨last, inner⟩ := keepEnd_eq_self_iff.mp kept
    refine ⟨last, fun character member => ⟨inner character member, ?_, ?_⟩⟩
    · simpa using List.takeWhile_eq_self_iff.mp fragmentless character member
    · simpa using List.takeWhile_eq_self_iff.mp same character member
  · rintro ⟨last, inner⟩
    have passes {mark : Char} (absent : mark ∉ text) : text.takeWhile (· != mark) = text :=
      List.takeWhile_eq_self_iff.mpr fun character member => by
        simpa using fun same : character = mark => absent (same ▸ member)
    rw [keepEnd_eq_self_iff.mpr ⟨last, fun character member => (inner character member).1⟩,
      passes fun member => (inner '#' member).2.1 rfl,
      passes fun member => (inner '?' member).2.2 rfl]

theorem pathPart_append {before : List Char} {mark : Char} (stop : isBlank mark = false)
    (inner : ∀ character ∈ before ++ [mark],
      isUnbroken character ∧ character ≠ '#' ∧ character ≠ '?') :
    pathPart (before ++ mark :: text) = before ++ mark :: pathPart text := by
  rw [pathPart_eq, pathPart_eq, keepEnd_append stop fun character member =>
    (inner character (List.mem_append_left _ member)).1, List.append_cons,
    List.takeWhile_append_of_pos fun character member => by simp [inner character member],
    List.takeWhile_append_of_pos fun character member => by simp [inner character member],
    ← List.append_cons]

theorem under_of_pathPart (whole : pathPart text = text) :
    under scheme authority text =
      ⟨scheme, authority.user, some authority.host, authority.port,
        Path.written true ('/' :: text), none, none⟩ := by
  obtain ⟨last, inner⟩ := pathPart_eq_self_iff.mp whole
  have kept : keepEnd text = text :=
    keepEnd_eq_self_iff.mpr ⟨last, fun character member => (inner character member).1⟩
  have absent {mark : Char} (ends : mark = '#' ∨ mark = '?') : mark ∉ text := by
    intro member
    obtain rfl | rfl := ends
    · exact (inner _ member).2.1 rfl
    · exact (inner _ member).2.2 rfl
  rw [under, kept, splitOff_of_not_mem (absent (.inl rfl))]
  simp only [splitOff_of_not_mem (absent (.inr rfl))]
  rfl

theorem under_of_sound (sound : AreSound segments) (joined : join segments = '/' :: text)
    (name : List Char) (port : Option Nat) :
    under scheme ⟨none, name, port⟩ text = plain scheme name port segments none := by
  have inside (character) (member : character ∈ text) : character ∈ join segments := by
    rw [joined]
    exact List.mem_cons_of_mem _ member
  have solid (character) (member : character ∈ text) : isBlank character = false := by
    simpa [isBlank] using (sound.bounds character (inside character member)).1
  have whole : pathPart text = text := by
    refine pathPart_eq_self_iff.mpr
      ⟨fun character final => solid character (List.mem_of_getLast? final), ?_⟩
    refine fun character member => ⟨isUnbroken_of_not_isBlank (solid character member), ?_, ?_⟩
    · rintro rfl
      exact sound.not_mem (by decide) (by decide) (inside '#' member)
    · rintro rfl
      exact sound.not_mem (by decide) (by decide) (inside '?' member)
  rw [under_of_pathPart whole, ← joined, sound.written]
  rfl

variable {place : List Char} {port : Option Nat} {query : Option (List Char)}

theorem writeAuthority_plain :
    (plain scheme place port segments query).writeAuthority =
      '/' :: '/' :: writePlace place port := by
  cases port <;> simp [writeAuthority, plain, writePlace]

theorem write_plain (written : writePlace place port = host.toList) :
    (plain scheme place port segments query).write =
      scheme ++ "://" ++ host ++ String.ofList (join segments) ++
        String.ofList ((query.map ('?' :: ·)).getD []) := by
  rw [write, writeAuthority_plain, written, target]
  apply String.toList_inj.mp
  cases query <;> simp [plain]

end Url

/-- How long the URL of a request may be, in bytes. -/
def longest : Nat := 65534

theorem speaks_iff {url : Url} {name : List Char} (web : IsScheme url.scheme)
    (named : url.host = some name)
    (plain : ∀ character ∈ name, character ∉ "\"\x60\x7b\x7d".toList) :
    speaks url ↔ url.write.utf8ByteSize ≤ longest := by
  have scheme : (url.scheme = "http" || url.scheme = "https") = true := by
    simpa [IsScheme] using web
  have host : (url.host.any (·.any "\"\x60\x7b\x7d".toList.contains)) = false := by
    rw [named, Option.any_some, List.any_eq_false]
    exact fun character member => by simpa using plain character member
  rw [speaks, scheme, host]
  simp [longest]

theorem foldl_withPair (pairs : List (String × String)) (url : Url) :
    let full := pairs.foldl (fun url pair => url.withPair pair.1 pair.2) url
    full.scheme = url.scheme ∧ full.host = url.host ∧ full.port = url.port := by
  induction pairs generalizing url with
  | nil => exact ⟨rfl, rfl, rfl⟩
  | cons pair pairs ih => exact ih (url.withPair pair.1 pair.2)

theorem prepare_under {scheme host : String} {authority : Url.Authority} (web : IsScheme scheme)
    (named : IsAuthority scheme host authority) (text : List Char)
    (pairs : List (String × String)) :
    prepare (scheme ++ "://" ++ host ++ String.ofList ('/' :: text)) pairs =
      let url := pairs.foldl (fun url pair => url.withPair pair.1 pair.2)
        { Url.under scheme authority text with user := none }
      if url.write.utf8ByteSize ≤ longest then .ok (url, authority.user)
      else .error (.unsupported url) := by
  have kept := foldl_withPair pairs { Url.under scheme authority text with user := none }
  have spoken := speaks_iff (kept.1 ▸ web) kept.2.1 named.spoken
  have present : ((Url.under scheme authority text).host.all List.isEmpty) = false := by
    simp [Url.under, named.named]
  simp only [prepare, Url.read?_under web named, present, Bool.false_eq_true, if_false, ← spoken]
  rfl

theorem prepare_plain {scheme host : String} {segments : List (List Char)} (web : IsScheme scheme)
    (valid : IsHost scheme host) (sound : Path.AreSound segments)
    (pair : Option (String × String)) :
    ∃ place port, Url.writePlace place port = host.toList ∧
      prepare (scheme ++ "://" ++ host ++ String.ofList (Path.join segments)) pair.toList =
        let url := Url.plain scheme place port segments
          (pair.map fun pair => Text.Form.encodePair pair.1 pair.2)
        if url.write.utf8ByteSize ≤ longest then .ok (url, none) else .error (.unsupported url) := by
  obtain ⟨place, port, -, written, named⟩ := valid.isAuthority
  obtain ⟨text, joined⟩ : ∃ text, Path.join segments = '/' :: text := by
    obtain ⟨segment, segments, rfl⟩ := List.exists_cons_of_ne_nil sound.nonempty
    exact ⟨_, Path.join_cons segment segments⟩
  refine ⟨place, port, written, ?_⟩
  rw [joined, prepare_under web named, Url.under_of_sound sound joined]
  cases pair <;> rfl

end Tenancy.Web
