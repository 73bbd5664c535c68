import Mathlib.Data.List.OfFn
import Mathlib.Tactic.Choose
import Tenancy.Proofs.Cleanup.Pass

/-!
How a cleanup is shared out among its hosts: wherever its course is cut, the teardown of each host
has its share of what was seen before and of what is seen after, and the results of these teardowns
make up the result of the cleanup.
-/

namespace Tenancy.Cleanup

/-- What the teardown of one host sees before a moment and after it, and how it ends. -/
structure Share where
  host : String
  before : Trail Backend
  after : Trail Backend
  result : Except TenantError Outcome

namespace Share

def entry (share : Share) : String × Except TenantError Outcome :=
  (share.host, share.result)

def Taken (retry : RetryPolicy) (partition : String) (share : Share) : Prop :=
  Program.Yields (Teardown.run retry share.host partition).run (share.before ++ share.after)
    share.result

end Share

variable {retry : RetryPolicy} {partition : String} {hosts : List String}

/-- How the shares of the hosts make up the result. In turn, only the last share can be one of a
failure, and hosts after it have none. -/
def Reported (hosts : List String) (shares : List Share) (result : Except TenantError Report) :
    Policy → Prop
  | .abortOnFirstFailure =>
      shares.map Share.host <+: hosts ∧ (∀ share ∈ shares.dropLast, share.result.isOk) ∧
        result = firstVerdict (outcomesOf (shares.map Share.entry))
          (failuresOf (shares.map Share.entry)) ∧
        (result.isOk → shares.map Share.host = hosts)
  | .bestEffort _ =>
      shares.map Share.host = hosts ∧
        result = verdict (outcomesOf (shares.map Share.entry))
          (failuresOf (shares.map Share.entry))

/-- No share goes on before the earlier ones are over. -/
def Successive (shares : List Share) : Prop :=
  shares.Pairwise fun one other => one.after = [] ∨ other.before = []

theorem failuresOf_shares_eq_nil {shares : List Share}
    (fine : ∀ share ∈ shares, share.result.isOk) : failuresOf (shares.map Share.entry) = [] :=
  failuresOf_eq_nil_iff.mpr (List.forall_mem_map.mpr fine)

theorem Reported.last {shares : List Share} {failure : TenantError}
    (reported : Reported hosts shares (.error failure) .abortOnFirstFailure) :
    ∃ before last, shares = before ++ [last] ∧
      failuresOf (shares.map Share.entry) = [(last.host, failure)] := by
  obtain ⟨-, fine, result, -⟩ := reported
  obtain rfl | ⟨before, last, rfl⟩ := shares.eq_nil_or_concat
  · cases result
  rw [List.concat_eq_append] at fine result ⊢
  rw [List.dropLast_concat] at fine
  refine ⟨before, last, rfl, ?_⟩
  rw [List.map_append, failuresOf_append, failuresOf_shares_eq_nil fine] at result ⊢
  obtain ⟨host, first, rest, ended⟩ := last
  cases ended with
  | ok outcome => cases result
  | error own =>
      obtain rfl : failure = own := Except.error.inj result
      rfl

theorem Reported.fine {shares : List Share} {result : Except TenantError Report}
    (reported : Reported hosts shares result .abortOnFirstFailure) (ok : result.isOk) :
    ∀ share ∈ shares, share.result.isOk := by
  rw [reported.2.2.1] at ok
  cases failures : failuresOf (shares.map Share.entry) with
  | nil => exact List.forall_mem_map.mp (failuresOf_eq_nil_iff.mp failures)
  | cons failure failures' =>
      rw [failures] at ok
      cases ok

theorem append_eq_shares {τ : Type} {before after first second : List τ}
    (same : before ++ after = first ++ second) :
    ∃ ownBefore ownAfter restBefore restAfter, first = ownBefore ++ ownAfter ∧
      second = restBefore ++ restAfter ∧ before = ownBefore ++ restBefore ∧
      after = ownAfter ++ restAfter ∧ (ownAfter = [] ∨ restBefore = []) := by
  obtain ⟨middle, rfl, rfl⟩ | ⟨middle, rfl, rfl⟩ := List.append_eq_append_iff.mp same
  · exact ⟨before, middle, [], second, rfl, rfl, (List.append_nil before).symm, rfl, .inr rfl⟩
  · exact ⟨first, [], middle, after, (List.append_nil first).symm, rfl, rfl, rfl, .inl rfl⟩

theorem firstVerdict_cons (host : String) (outcome : Outcome)
    (entries : List (String × Except TenantError Outcome)) :
    firstVerdict (outcomesOf ((host, .ok outcome) :: entries))
        (failuresOf ((host, .ok outcome) :: entries)) =
      (fun report => ⟨(host, outcome) :: report.outcomes⟩) <$>
        firstVerdict (outcomesOf entries) (failuresOf entries) := by
  change firstVerdict ((host, outcome) :: outcomesOf entries) (failuresOf entries) = _
  cases failuresOf entries <;> rfl

theorem inTurn_shares {before after : Trail Backend}
    {outcomes : Except TenantError (List (String × Outcome))}
    (taken : Program.Yields (inTurn retry partition hosts).run (before ++ after) outcomes) :
    ∃ shares : List Share, before = shares.flatMap Share.before ∧
      after = shares.flatMap Share.after ∧ Successive shares ∧
      (∀ share ∈ shares, share.Taken retry partition) ∧
      Reported hosts shares (Report.mk <$> outcomes) .abortOnFirstFailure := by
  induction hosts generalizing before after outcomes with
  | nil =>
      obtain ⟨none, rfl⟩ := taken
      obtain ⟨rfl, rfl⟩ := List.append_eq_nil_iff.mp none
      exact ⟨[], rfl, rfl, .nil, List.forall_mem_nil _, List.nil_prefix, List.forall_mem_nil _, rfl,
        fun _ => rfl⟩
  | cons host hosts ih =>
      rw [inTurn] at taken
      obtain ⟨failure, ends, rfl⟩ | ⟨outcome, first, second, same, ends, goes⟩ :=
        Action.yields_bind_iff.mp taken
      · refine ⟨[⟨host, before, after, .error failure⟩], ?_, ?_, List.pairwise_singleton _ _,
          ?_, ?_, ?_, rfl, fun ok => ?_⟩
        · exact (List.append_nil before).symm
        · exact (List.append_nil after).symm
        · exact List.forall_mem_singleton.mpr ends
        · exact List.prefix_append [host] hosts
        · exact List.forall_mem_nil _
        · cases ok
      rw [bind_pure_comp] at goes
      obtain ⟨others, further, rfl⟩ := Action.yields_map_iff.mp goes
      obtain ⟨ownBefore, ownAfter, restBefore, restAfter, rfl, rfl, rfl, rfl, ended⟩ :=
        append_eq_shares same
      obtain ⟨shares, rfl, rfl, successive, valid, part, fine, reported, all⟩ := ih further
      refine ⟨⟨host, ownBefore, ownAfter, .ok outcome⟩ :: shares, rfl, rfl, ?_,
        List.forall_mem_cons.mpr ⟨ends, valid⟩, ?_, ?_, ?_, fun ok => ?_⟩
      · refine List.pairwise_cons.mpr ⟨fun other member => ?_, successive⟩
        exact ended.imp_right fun none => List.flatMap_eq_nil_iff.mp none other member
      · exact (List.prefix_cons_inj host).mpr part
      · cases shares with
        | nil => exact List.forall_mem_nil _
        | cons => exact List.forall_mem_cons.mpr ⟨rfl, fine⟩
      · refine Eq.trans ?_ (firstVerdict_cons host outcome (shares.map Share.entry)).symm
        rw [← reported]
        cases others <;> rfl
      · refine congrArg (host :: ·) (all ?_)
        cases others with
        | ok => rfl
        | error => cases ok

theorem exists_shares (hosts : List String) (results : List (Except TenantError Outcome))
    (Fits : Nat → Share → Prop)
    (each : ∀ place : Fin hosts.length, ∃ share : Share, share.host = hosts[place] ∧
      results[place.val]? = some share.result ∧ Fits place share) :
    ∃ shares : List Share, shares.map Share.host = hosts ∧
      hosts.zip results = shares.map Share.entry ∧
      ∀ place share, shares[place]? = some share → Fits place share := by
  choose share host result fits using each
  refine ⟨List.ofFn share, ?_, List.ext_getElem? fun place => ?_, fun place own found => ?_⟩
  · rw [List.map_ofFn]
    exact (congrArg List.ofFn (funext host)).trans List.ofFn_getElem
  · rw [List.getElem?_map, List.getElem?_ofFn]
    split
    next low =>
      have known : hosts[place]? = some (share ⟨place, low⟩).host := by
        rw [host]
        exact List.getElem?_eq_getElem low
      exact List.getElem?_zip_eq_some.mpr ⟨known, result ⟨place, low⟩⟩
    next high => exact List.getElem?_eq_none (by rw [List.length_zip]; omega)
  · rw [List.getElem?_ofFn] at found
    split at found
    next low =>
      obtain rfl := Option.some.inj found
      exact fits ⟨place, low⟩
    next => cases found

end Tenancy.Cleanup
