import Tenancy.Proofs.Web.Url

/-!
The pairs that a request tells in its URL. They are added behind what the URL itself says, and are
read again as they were, whatever their texts hold.
-/

namespace Tenancy.Web

namespace Url

open Text.Form (encodePair)

variable {url : Url} {text name value : String}

def parameters (url : Url) : List (String × String) :=
  ((Text.cut (· == '&') (url.query.getD [])).filter (· ≠ [])).flatMap Text.Form.pairs

theorem parameters_of_no_query (none : url.query = none) : url.parameters = [] := by
  rw [parameters, none]
  rfl

theorem parameters_pair (name value : String) :
    ((Text.cut (· == '&') (encodePair name value)).filter (· ≠ [])).flatMap Text.Form.pairs =
      [(name, value)] := by
  have written : encodePair name value ≠ [] := by simp [encodePair]
  rw [Text.Form.cut_encodePair, List.filter_cons_of_pos (by simpa using written), List.filter_nil,
    List.flatMap_singleton, Text.Form.pairs_encodePair]

theorem parameters_withPair (url : Url) (name value : String) :
    (url.withPair name value).parameters = url.parameters ++ [(name, value)] := by
  have withQuery (query : Option (List Char)) : { url with query }.parameters =
      ((Text.cut (· == '&') (query.getD [])).filter (· ≠ [])).flatMap Text.Form.pairs := rfl
  unfold withPair
  rw [withQuery]
  match own : url.query with
  | none =>
      rw [parameters_of_no_query own, List.nil_append]
      exact parameters_pair name value
  | some [] =>
      have silent : url.parameters = [] := by
        rw [parameters, own]
        rfl
      rw [silent, List.nil_append]
      exact parameters_pair name value
  | some (first :: rest) =>
      have parted : Text.cut (· == '&') ((first :: rest) ++ '&' :: encodePair name value) =
          Text.cut (· == '&') (first :: rest) ++ Text.cut (· == '&') (encodePair name value) :=
        Text.cut_append_cut _ _ (beq_self_eq_true '&')
      rw [Option.getD_some, parted, List.filter_append, List.flatMap_append, parameters_pair,
        parameters, own, Option.getD_some]

theorem scheme?_sublist {text after : List Char} {scheme : String}
    (read : scheme? text = some (scheme, after)) : List.Sublist after text := by
  unfold scheme? at read
  simp only at read
  split at read
  next first rest own taken dropped =>
    split at read
    next =>
      simp only [Option.some.injEq, Prod.mk.injEq] at read
      have behind : List.Sublist (':' :: own) text := dropped ▸ List.dropWhile_sublist _
      exact read.2 ▸ (List.sublist_cons_self ':' own).trans behind
    next => cases read
  next => cases read

theorem query_of_read? (markless : '?' ∉ text.toList) (read : read? text = some url) :
    url.query = none := by
  simp only [read?, Option.bind_eq_bind, Option.bind_eq_some_iff, Option.pure_def,
    Option.some.injEq] at read
  obtain ⟨⟨scheme, after⟩, schemed, ⟨authority, path⟩, -, rfl⟩ := read
  have behind : '?' ∉ after := fun member =>
    markless ((strip_sublist _).subset (scheme?_sublist schemed |>.subset member))
  have bare : '?' ∉ (splitOff '#' after).1 := by
    rw [splitOff_fst]
    exact fun member => behind ((List.takeWhile_sublist _).subset member)
  exact congrArg (Option.map _) (congrArg Prod.snd (splitOff_of_not_mem bare))

theorem withPair_inj {first second : String}
    (same : (url.withPair name first).target = (url.withPair name second).target) :
    first = second := by
  have queried (value : String) : ∃ query, (url.withPair name value).query = some query ∧
      (url.withPair name value).target = url.path ++ '?' :: query := by
    unfold withPair target
    split <;> exact ⟨_, rfl, rfl⟩
  obtain ⟨query, one, told⟩ := queried first
  obtain ⟨another, other, toldToo⟩ := queried second
  rw [told, toldToo] at same
  obtain rfl := (List.cons.inj (List.append_cancel_left same)).2
  have pairs : (url.withPair name first).parameters = (url.withPair name second).parameters := by
    rw [parameters, one, parameters, other]
  rw [parameters_withPair, parameters_withPair] at pairs
  simpa using List.append_cancel_left pairs

end Url

theorem prepare_pair {text name value : String} {url : Url}
    {user : Option (List Char × List Char)} :
    prepare text [(name, value)] = .ok (url, user) ↔
      ∃ own, Url.read? text = some own ∧ own.host.all List.isEmpty = false ∧
        url = { own with user := none }.withPair name value ∧ speaks url ∧ user = own.user := by
  cases read : Url.read? text with
  | none => simp [prepare, read]
  | some own =>
      cases named : own.host.all List.isEmpty with
      | true => simp [prepare, read, named]
      | false =>
          have prepared : prepare text [(name, value)] =
              let full := { own with user := none }.withPair name value
              if speaks full then .ok (full, own.user) else .error (.unsupported full) := by
            simp only [prepare, read, named, Bool.false_eq_true, if_false]
            rfl
          rw [prepared]
          by_cases spoken : speaks ({ own with user := none }.withPair name value)
          · simp only [spoken, if_true, Except.ok.injEq, Prod.mk.injEq]
            grind
          · simp only [spoken, Bool.false_eq_true, if_false]
            grind

end Tenancy.Web
