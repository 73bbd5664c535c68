import Tenancy.Proofs.Web.Query
import Tenancy.Proofs.Web.Url

/-!
Users in URLs. A user stands before the last at sign of an authority, so a URL without an at sign
names none, and neither does a URL of a host without one, whatever its path holds.
-/

namespace Tenancy.Web.Url

open Web.Path (isSlash)

def NamesNoUser (text : String) : Prop := ∀ url, read? text = some url → url.user = none

variable {scheme : String} {text : List Char} {url : Url}

theorem user_of_authority? {authority : Authority} {rest : List Char} (plain : '@' ∉ text)
    (read : authority? scheme text = some (authority, rest)) : authority.user = none := by
  have whole : text.reverse.dropWhile (fun character => !(character == '@')) = [] := by
    rw [List.dropWhile_eq_nil_iff]
    intro character member
    have apart : character ≠ '@' := fun same => plain (same ▸ List.mem_reverse.mp member)
    simpa using apart
  have uncut : splitLast? (· == '@') text = none := by
    rw [splitLast?, whole]
  simp only [authority?, uncut, Option.map_none, Option.filter_none, Option.bind_eq_bind] at read
  split at read
  · split at read
    · cases read
    · obtain ⟨rfl, -⟩ := Prod.mk.inj (Option.some.inj read)
      rfl
  · simp only [Option.bind_eq_some_iff] at read
    obtain ⟨⟨port, left⟩, -, host, -, same⟩ := read
    obtain ⟨rfl, -⟩ := Prod.mk.inj (Option.some.inj same)
    rfl

def location (scheme : String) (text : List Char) : List Char :=
  ((opened? (isWeb scheme) text).getD []).takeWhile fun character =>
    !isSlash (isWeb scheme) character

theorem user_of_hierarchy? {authority : Option Authority} {path : List Char}
    (plain : '@' ∉ location scheme text)
    (read : hierarchy? scheme text = some (authority, path)) : authority.bind (·.user) = none := by
  unfold hierarchy? at read
  simp only at read
  split at read
  · obtain ⟨parts, -, same⟩ := Option.map_eq_some_iff.mp read
    obtain ⟨rfl, -⟩ := Prod.mk.inj same
    rfl
  · unfold location at plain
    split at read
    next rest opened =>
      rw [opened, Option.getD_some] at plain
      simp only [Option.bind_eq_bind, Option.bind_eq_some_iff] at read
      obtain ⟨⟨own, left⟩, known, same⟩ := read
      obtain ⟨rfl, -⟩ := Prod.mk.inj (Option.some.inj same)
      exact user_of_authority? plain known
    next =>
      split at read
      · obtain ⟨rfl, -⟩ := Prod.mk.inj (Option.some.inj read)
        rfl
      · obtain ⟨rfl, -⟩ := Prod.mk.inj (Option.some.inj read)
        rfl

theorem user_of_read? {text : String}
    (plain : ∀ scheme after, scheme? (strip text.toList) = some (scheme, after) →
      '@' ∉ location scheme (splitOff '?' (splitOff '#' after).1).1) : NamesNoUser text := by
  intro url read
  simp only [read?, Option.bind_eq_bind, Option.bind_eq_some_iff, Option.pure_def,
    Option.some.injEq] at read
  obtain ⟨⟨scheme, after⟩, schemed, ⟨authority, path⟩, known, rfl⟩ := read
  exact user_of_hierarchy? (plain scheme after schemed) known

theorem location_subset : location scheme text ⊆ text := by
  intro character member
  have inside := (List.takeWhile_sublist _).subset member
  unfold opened? at inside
  split at inside
  · exact (List.dropWhile_sublist _).subset inside
  · split at inside
    · exact List.mem_cons_of_mem _ (List.mem_cons_of_mem _ inside)
    · cases inside

theorem namesNoUser_of_plain {text : String} (plain : '@' ∉ text.toList) : NamesNoUser text := by
  refine user_of_read? fun scheme after schemed member => plain ?_
  have before := location_subset member
  rw [splitOff_fst, splitOff_fst] at before
  have inside := (List.takeWhile_sublist _).subset ((List.takeWhile_sublist _).subset before)
  exact (strip_sublist _).subset ((scheme?_sublist schemed).subset inside)

section

variable {keeps : Char → Bool} {before rest : List Char} {character : Char}

theorem mem_of_mem_takeWhile
    (member : character ∈ ((before ++ '/' :: rest).takeWhile keeps).takeWhile
      fun character => !isSlash true character) : character ∈ before := by
  induction before with
  | nil =>
      rw [List.nil_append, List.takeWhile_cons] at member
      split at member
      · rw [List.takeWhile_cons_of_neg (by decide)] at member
        cases member
      · cases member
  | cons first before ih =>
      rw [List.cons_append, List.takeWhile_cons] at member
      split at member
      · rw [List.takeWhile_cons] at member
        split at member
        · obtain rfl | inside := List.mem_cons.mp member
          · exact List.mem_cons_self
          · exact List.mem_cons_of_mem _ (ih inside)
        · cases member
      · cases member

theorem mem_of_mem_location {first : Char} {word : List Char} (word_first : isSlash true first = false)
    (member : character ∈ (((before ++ '/' :: (first :: word ++ '/' :: rest)).takeWhile
      keeps).dropWhile (isSlash true)).takeWhile fun character => !isSlash true character) :
    character ∈ before ∨ character ∈ first :: word := by
  induction before with
  | nil =>
      right
      rw [List.nil_append, List.takeWhile_cons] at member
      split at member
      · rw [List.dropWhile_cons_of_pos (by decide)] at member
        refine @mem_of_mem_takeWhile keeps (first :: word) rest character ?_
        rw [List.cons_append, List.takeWhile_cons] at member ⊢
        split at member
        next kept =>
          rw [List.dropWhile_cons_of_neg (by simp [word_first])] at member
          rwa [if_pos kept]
        next => cases member
      · cases member
  | cons own before ih =>
      rw [List.cons_append, List.takeWhile_cons] at member
      split at member
      · rw [List.dropWhile_cons] at member
        split at member
        · obtain inside | inside := ih member
          · exact .inl (List.mem_cons_of_mem _ inside)
          · exact .inr inside
        · rw [List.takeWhile_cons] at member
          split at member
          · obtain rfl | inside := List.mem_cons.mp member
            · exact .inl List.mem_cons_self
            · exact .inl (List.mem_cons_of_mem _ (mem_of_mem_takeWhile inside))
          · cases member
      · cases member

end

theorem namesNoUser_of_host {host : String} (web : IsScheme scheme) (plain : '@' ∉ host.toList)
    (rest : String) : NamesNoUser (scheme ++ "://" ++ host ++ "/mgmt/tm/" ++ rest) := by
  let behind : List Char :=
    '/' :: '/' :: (host.toList.filter isUnbroken) ++ '/' :: ("mgmt".toList ++ '/' ::
      ("tm".toList ++ '/' :: keepEnd rest.toList))
  obtain ⟨first, before, head, inner, chars, schemed⟩ := chars_of_scheme web behind
  have stripped : strip (scheme ++ "://" ++ host ++ "/mgmt/tm/" ++ rest).toList =
      scheme.toList ++ ':' :: behind := by
    have whole : (scheme ++ "://" ++ host ++ "/mgmt/tm/" ++ rest).toList =
        (first :: (before ++ "://".toList ++ host.toList ++ "/mgmt/tm".toList)) ++
          '/' :: rest.toList := by
      simp [chars]
    have kept : (first :: before).filter isUnbroken = first :: before :=
      List.filter_eq_self.mpr inner
    rw [whole, List.cons_append, strip_cons head, ← List.cons_append,
      keepEnd_append_filter (by decide), List.append_assoc, List.append_assoc, ← List.cons_append,
      List.filter_append, kept, List.filter_append, List.filter_append, chars]
    simp [behind, isUnbroken]
  refine user_of_read? fun own after known member => ?_
  rw [stripped, schemed] at known
  obtain ⟨rfl, rfl⟩ := Prod.mk.inj (Option.some.inj known)
  simp only [splitOff_fst, List.takeWhile_takeWhile, location, (isWeb_of_scheme web).1, opened?,
    if_true, Option.getD_some] at member
  obtain inside | inside := mem_of_mem_location (by decide) member
  · simp only [List.mem_cons, List.mem_filter] at inside
    obtain same | same | inside := inside
    · cases same
    · cases same
    · exact plain inside.1
  · exact absurd inside (by decide)

end Tenancy.Web.Url
