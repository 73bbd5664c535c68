import Tenancy.Proofs.Json.Scanning

/-!
A tree is built of its own tokens, whatever it is a part of. So every text that is spelled for a tree
is read as that tree.
-/

namespace Tenancy.Json.Node

open Token (Beside)

namespace Builder

variable {frames : List Frame}

theorem itemTokens_cons (item : Node) (items : List Node) :
    ∃ first rest, itemTokens (item :: items) = first :: rest ∧ first ≠ .closeArray := by
  cases items <;> cases item <;> exact ⟨_, _, rfl, nofun⟩

theorem step_firstItem {token : Token} (other : token ≠ .closeArray) :
    step ⟨frames, .firstItem⟩ token = step ⟨.array [] :: frames, .value⟩ token := by
  cases token with
  | closeArray => exact absurd rfl other
  | _ => rfl

theorem foldlM_firstItem (item : Node) (items : List Node) (rest : List Token) :
    (itemTokens (item :: items) ++ rest).foldlM step ⟨frames, .firstItem⟩ =
      (itemTokens (item :: items) ++ rest).foldlM step ⟨.array [] :: frames, .value⟩ := by
  obtain ⟨first, others, written, other⟩ := itemTokens_cons item items
  rw [written, List.cons_append, List.foldlM_cons, List.foldlM_cons, step_firstItem other]

theorem foldlM_name (name : Option String) (done : List (Option String × Node))
    (rest : List Token) :
    (Token.string name :: .colon :: rest).foldlM step ⟨frames, .key done⟩ =
      rest.foldlM step ⟨.object done name :: frames, .value⟩ := by
  have named : step ⟨frames, .key done⟩ (.string name) = some ⟨frames, .colon done name⟩ := rfl
  have colon : step ⟨frames, .colon done name⟩ .colon =
      some ⟨.object done name :: frames, .value⟩ := rfl
  rw [foldlM_cons_of_eq_some named, foldlM_cons_of_eq_some colon]

theorem foldlM_firstKey (member : Option String × Node) (members : List (Option String × Node))
    (rest : List Token) :
    (memberTokens (member :: members) ++ rest).foldlM step ⟨frames, .firstKey []⟩ =
      (memberTokens (member :: members) ++ rest).foldlM step ⟨frames, .key []⟩ := by
  cases members <;> rfl

mutual

theorem foldlM_tokens (node : Node) (frames : List Frame) :
    node.tokens.foldlM step ⟨frames, .value⟩ = some ⟨frames, .after node⟩ := by
  match node with
  | .null | .bool _ | .number _ | .string _ | .array [] | .object [] => rfl
  | .array (item :: items) =>
      have opened : step ⟨frames, .value⟩ .openArray = some ⟨frames, .firstItem⟩ := rfl
      rw [tokens, foldlM_cons_of_eq_some opened, foldlM_firstItem,
        foldlM_itemTokens (item :: items) (List.cons_ne_nil item items) [] frames]
      rfl
  | .object (member :: members) =>
      have opened : step ⟨frames, .value⟩ .openObject = some ⟨frames, .firstKey []⟩ := rfl
      rw [tokens, foldlM_cons_of_eq_some opened, foldlM_firstKey,
        foldlM_memberTokens (member :: members) (List.cons_ne_nil member members) [] frames]
      rfl

theorem foldlM_itemTokens (items : List Node) (nonempty : items ≠ []) (done : List Node)
    (frames : List Frame) :
    (itemTokens items ++ [Token.closeArray]).foldlM step ⟨.array done :: frames, .value⟩ =
      some ⟨frames, .after (.array (done.reverse ++ items))⟩ := by
  match items with
  | [] => exact absurd rfl nonempty
  | [item] =>
      rw [itemTokens, foldlM_append_of_eq_some (foldlM_tokens item _)]
      simp [step, resume?]
  | item :: next :: rest =>
      have comma : step ⟨.array done :: frames, .after item⟩ .comma =
          some ⟨.array (item :: done) :: frames, .value⟩ := rfl
      rw [itemTokens, List.append_assoc, foldlM_append_of_eq_some (foldlM_tokens item _),
        List.cons_append, foldlM_cons_of_eq_some comma,
        foldlM_itemTokens (next :: rest) (List.cons_ne_nil next rest) (item :: done) frames]
      simp

theorem foldlM_memberTokens (members : List (Option String × Node)) (nonempty : members ≠ [])
    (done : List (Option String × Node)) (frames : List Frame) :
    (memberTokens members ++ [Token.closeObject]).foldlM step ⟨frames, .key done⟩ =
      some ⟨frames, .after (.object (done.reverse ++ members))⟩ := by
  match members with
  | [] => exact absurd rfl nonempty
  | [(name, value)] =>
      rw [memberTokens, List.cons_append, List.cons_append, foldlM_name,
        foldlM_append_of_eq_some (foldlM_tokens value _)]
      simp [step, resume?]
  | (name, value) :: next :: rest =>
      have comma : step ⟨.object done name :: frames, .after value⟩ .comma =
          some ⟨frames, .key ((name, value) :: done)⟩ := rfl
      rw [memberTokens, List.cons_append, List.cons_append, List.append_assoc, foldlM_name,
        foldlM_append_of_eq_some (foldlM_tokens value _), List.cons_append,
        foldlM_cons_of_eq_some comma,
        foldlM_memberTokens (next :: rest) (List.cons_ne_nil next rest) ((name, value) :: done)
          frames]
      simp

end

end Builder

section Chains

variable {token : Token} {first rest : List Token}

theorem chain_cons (other : ¬ token.IsNumber) (chain : List.IsChain Beside rest) :
    List.IsChain Beside (token :: rest) :=
  List.isChain_cons.mpr ⟨fun _ _ both => other both.1, chain⟩

theorem chain_append (other : ¬ token.IsNumber) (before : List.IsChain Beside first)
    (chain : List.IsChain Beside rest) : List.IsChain Beside (first ++ token :: rest) := by
  refine List.isChain_append.mpr ⟨before, chain_cons other chain, fun _ _ next same both => ?_⟩
  obtain rfl := Option.some.inj same
  exact other both.2

mutual

theorem beside_tokens (node : Node) : List.IsChain Beside node.tokens := by
  match node with
  | .null | .bool _ | .number _ | .string _ => exact List.isChain_singleton _
  | .array items =>
      exact chain_cons nofun (chain_append nofun (beside_itemTokens items) List.isChain_nil)
  | .object members =>
      exact chain_cons nofun (chain_append nofun (beside_memberTokens members) List.isChain_nil)

theorem beside_itemTokens (items : List Node) : List.IsChain Beside (itemTokens items) := by
  match items with
  | [] => exact List.isChain_nil
  | [item] => exact beside_tokens item
  | item :: next :: rest =>
      exact chain_append nofun (beside_tokens item) (beside_itemTokens (next :: rest))

theorem beside_memberTokens (members : List (Option String × Node)) :
    List.IsChain Beside (memberTokens members) := by
  match members with
  | [] => exact List.isChain_nil
  | [(name, value)] => exact chain_cons nofun (chain_cons nofun (beside_tokens value))
  | (name, value) :: next :: rest =>
      exact chain_cons nofun (chain_cons nofun
        (chain_append nofun (beside_tokens value) (beside_memberTokens (next :: rest))))

end

end Chains

theorem ofTokens?_tokens (node : Node) : ofTokens? node.tokens = some node := by
  rw [ofTokens?, Builder.start, Builder.foldlM_tokens, Option.bind_some]
  rfl

/-- Every text that is spelled for a tree is read as the tree. -/
theorem read?_of_spells {text : List UInt8} {node : Node} (spelled : Spells text node) :
    read? text = some node := by
  obtain ⟨lexemes, each, spread⟩ := spelled
  rw [read?, Token.scan?_of_spread each spread (beside_tokens node), Option.bind_some,
    ofTokens?_tokens]

end Tenancy.Json.Node
