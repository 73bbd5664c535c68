import Tenancy.Proofs.Agenda
import Tenancy.Proofs.Batch.Single
import Tenancy.Proofs.Complaints.Ledger

/-!
Errors in the log and the failures that are passed on. Each failed call that ends a creation or the
teardown of an appliance is passed on as one failure, and in the order of these calls one error is
logged for each of them that was to change something. For a call that only reads no error is logged.
-/

namespace Tenancy

def TenantError.parts : TenantError → List TenantError
  | incomplete failures _ => failures.map Prod.snd
  | failure => [failure]

def propagated {α : Type} : Except TenantError α → List TenantError
  | .ok _ => []
  | .error failure => failure.parts.filter (·.ofCall)

structure Accounts {σ : Type} (before after : Surroundings Backend σ)
    (failures : List TenantError) (culprits : List Culprit) : Prop where
  charges : Charges before.exchanges after.exchanges culprits
  failures : (culprits.map Culprit.failure).Perm failures
  logged : after.errors = complaints culprits ++ before.errors

variable {σ α β : Type} {peer : Peer Backend σ} {before after : Surroundings Backend σ}
  {culprits : List Culprit}

theorem propagated_map (change : α → β) (result : Except TenantError α) :
    propagated (result.map change) = propagated result := by
  cases result <;> rfl

theorem Raises.parts {request : Request} {answer : request.Answer} {failure : TenantError}
    {complaint : Option Event} (raises : Raises request answer failure complaint) :
    failure.parts = [failure] := by
  cases raises <;> rfl

def callFailure? (result : Except TenantError α) : Option TenantError :=
  match result with
  | .ok _ => none
  | .error failure => if failure.ofCall then some failure else none

theorem callFailure?_eq_some_iff {result : Except TenantError α} {failure : TenantError} :
    callFailure? result = some failure ↔ result = .error failure ∧ failure.ofCall := by
  cases result with
  | ok value => simp [callFailure?]
  | error own =>
      rw [callFailure?, Option.ite_none_right_eq_some, Option.some.injEq, Except.error.injEq]
      constructor
      · rintro ⟨called, rfl⟩
        exact ⟨rfl, called⟩
      · rintro ⟨rfl, called⟩
        exact ⟨called, rfl⟩

namespace Batch

theorem failures_perm {results : List (Except TenantError α)}
    (distinct : (culprits.map Culprit.asker).Nodup)
    (settled : ∀ place failure, results[place]? = some (.error failure) ∧ failure.ofCall ↔
      ∃ culprit ∈ culprits, culprit.asker = place ∧ culprit.failure = failure) :
    (culprits.map Culprit.failure).Perm (results.filterMap callFailure?) := by
  let charged := culprits.map fun culprit => (culprit.asker, culprit.failure)
  let failed := results.zipIdx.filterMap fun entry => (callFailure? entry.1).map (entry.2, ·)
  have once : failed.Nodup := by
    refine List.Nodup.filterMap (fun one other entry its same => ?_)
      (List.Nodup.of_map Prod.snd (by simp [List.nodup_range']))
    obtain ⟨failure, known, rfl⟩ := Option.map_eq_some_iff.mp its
    obtain ⟨failure', known', pair⟩ := Option.map_eq_some_iff.mp same
    obtain ⟨place, rfl⟩ := Prod.mk.inj pair
    refine Prod.ext ?_ place.symm
    rw [(callFailure?_eq_some_iff.mp known).1, (callFailure?_eq_some_iff.mp known').1]
  have listed (place : Nat) (failure : TenantError) : (place, failure) ∈ failed ↔
      results[place]? = some (.error failure) ∧ failure.ofCall := by
    simp only [failed, List.mem_filterMap, List.mem_zipIdx_iff_getElem?, Option.map_eq_some_iff,
      Prod.mk.injEq, Prod.exists]
    constructor
    · rintro ⟨result, _, found, failure, known, rfl, rfl⟩
      obtain ⟨rfl, own⟩ := callFailure?_eq_some_iff.mp known
      exact ⟨found, own⟩
    · rintro ⟨found, own⟩
      exact ⟨_, _, found, _, callFailure?_eq_some_iff.mpr ⟨rfl, own⟩, rfl, rfl⟩
  have same : charged.Perm failed := by
    refine (List.perm_ext_iff_of_nodup ?_ once).mpr fun entry => ?_
    · refine List.Nodup.of_map Prod.fst ?_
      rw [List.map_map]
      exact distinct
    · obtain ⟨place, failure⟩ := entry
      rw [listed, settled]
      simp [charged]
  have left : charged.map Prod.snd = culprits.map Culprit.failure := List.map_map
  have right : failed.map Prod.snd = results.filterMap callFailure? := by
    calc failed.map Prod.snd = results.zipIdx.filterMap (callFailure? ∘ Prod.fst) := by
          simp [failed, List.map_filterMap, Function.comp_def]
      _ = results.filterMap callFailure? := by rw [← List.filterMap_map, List.zipIdx_map_fst]
  rw [← left, ← right]
  exact same.map Prod.snd

theorem accounts_run (before : Surroundings Backend σ)
    (quiet : ∀ event ∈ peer.notice, event.level ≠ .error) {limit : Nat}
    (room : 0 < limit) {programs : List (Program Backend (Except TenantError α))}
    (outspoken : ∀ program ∈ programs, program.Outspoken) :
    let ended := (Batch.start before limit programs).run peer
    ∃ culprits, Accounts before ended.surroundings (ended.results.filterMap callFailure?)
      culprits := by
  intro ended
  obtain ⟨culprits, ledger⟩ := (ledger_start before limit outspoken).run quiet
  obtain ⟨logged, settled⟩ := ledger.settled (all_ended_run peer room)
  exact ⟨culprits, ledger.charges, failures_perm ledger.charges.distinct settled, logged⟩

end Batch

theorem Program.accounts_run (before : Surroundings Backend σ)
    (quiet : ∀ event ∈ peer.notice, event.level ≠ .error)
    {program : Program Backend (Except TenantError α)} (outspoken : program.Outspoken) :
    let ended := program.run peer 0 before
    ∃ culprits, Accounts before ended.2 (propagated ended.1) culprits := by
  intro ended
  obtain ⟨culprits, charges, failures, logged⟩ :=
    Batch.accounts_run before quiet Nat.zero_lt_one
      (List.forall_mem_singleton.mpr outspoken)
  obtain ⟨results, same⟩ := Batch.run_single program peer before
  rw [results] at failures
  rw [same] at charges logged
  refine ⟨culprits, charges, ?_, logged⟩
  change (culprits.map Culprit.failure).Perm ([ended.1].filterMap callFailure?) at failures
  generalize ended.1 = result at failures
  cases result with
  | ok value => exact failures
  | error failure =>
      have whole : [Except.error (α := α) failure].filterMap callFailure? =
          [failure].filter (·.ofCall) := by
        cases called : failure.ofCall <;> simp [callFailure?, called]
      have parts : failure.parts = [failure] := by
        cases called : failure.ofCall with
        | false => cases failure <;> first | rfl | cases called
        | true =>
            have member : failure ∈ culprits.map Culprit.failure := by
              rw [failures.mem_iff, whole]
              simp [called]
            obtain ⟨culprit, -, rfl⟩ := List.mem_map.mp member
            exact culprit.raised.parts
      rw [propagated, parts, ← whole]
      exact failures

namespace Cleanup

theorem conclude_errors (peer : Peer Backend σ) (before : Surroundings Backend σ)
    (partition : String) (outcomes : List (String × Outcome))
    (failures : List (String × TenantError))
    (results : List (String × Except TenantError Outcome)) :
    (Program.run (conclude partition outcomes failures results).run peer 0 before).2.errors =
      before.errors := by
  induction results generalizing outcomes failures before with
  | nil =>
      unfold conclude
      split
      · rfl
      · rfl
  | cons entry results ih =>
      obtain ⟨host, failure | outcome⟩ := entry
      · refine (ih _ outcomes ((host, failure) :: failures)).trans ?_
        have warns : Level.warn ≠ .error := by decide
        exact Surroundings.errors_write_of_quiet warns
      · exact ih before ((host, outcome) :: outcomes) failures

theorem propagated_verdict (outcomes : List (String × Outcome))
    (failures : List (String × TenantError)) :
    propagated (verdict outcomes failures) =
      (failures.map Prod.snd).filter (·.ofCall) := by
  cases failures <;> rfl

theorem failuresOf_zip {hosts : List String} {results : List (Except TenantError Outcome)}
    (whole : results.length = hosts.length) :
    ((failuresOf (hosts.zip results)).map Prod.snd).filter (·.ofCall) =
      results.filterMap callFailure? := by
  induction results generalizing hosts with
  | nil => simp [failuresOf]
  | cons result results ih =>
      cases hosts with
      | nil => cases whole
      | cons host hosts =>
          have rest := ih (Nat.succ.inj whole)
          cases result with
          | ok outcome => exact rest
          | error failure =>
              change (failure :: (failuresOf (hosts.zip results)).map Prod.snd).filter _ = _
              rw [List.filter_cons, rest, List.filterMap_cons, callFailure?]
              split
              · simp [*]
              · simp [*]

theorem undertaking_accounts (before : Surroundings Backend σ)
    (quiet : ∀ event ∈ peer.notice, event.level ≠ .error)
    (retry : RetryPolicy) (partition : String) (hosts : List String) (policy : Policy) :
    let ended := (undertaking retry partition hosts policy).run peer before
    ∃ culprits, Accounts before ended.2 (propagated ended.1) culprits := by
  cases policy with
  | abortOnFirstFailure =>
      exact Program.accounts_run before quiet ((inTurn_outspoken retry partition hosts).map Report.mk)
  | bestEffort maxParallel =>
      let programs := hosts.map fun host => (Teardown.run retry host partition).run
      let batch := (Batch.start before (max maxParallel 1) programs).run peer
      have room : 0 < max maxParallel 1 := Nat.lt_of_lt_of_le Nat.zero_lt_one (Nat.le_max_right _ _)
      obtain ⟨culprits, charges, failures, logged⟩ := Batch.accounts_run before quiet
        room (List.forall_mem_map.mpr fun host _ => Teardown.run_outspoken retry host partition)
      have whole : batch.results.length = hosts.length := by
        have rests : batch.rests = batch.results.map .done := Batch.rests_run peer room
        have kept := (Batch.reaches_run (Batch.start before (max maxParallel 1) programs)
          peer).record.1
        have size := congrArg List.length rests
        rw [List.length_map] at size
        rw [← size, kept]
        simp [Batch.start, Batch.rests, programs]
      obtain ⟨events, ran⟩ :=
        conclude_run partition peer 0 batch.surroundings [] [] (hosts.zip batch.results)
      have quietly := conclude_errors peer batch.surroundings partition [] []
        (hosts.zip batch.results)
      rw [ran] at quietly
      intro ended
      have same : ended = _ := ran
      rw [same]
      refine ⟨culprits, charges, ?_, quietly.trans logged⟩
      rw [List.reverse_nil, List.nil_append, List.reverse_nil, List.nil_append, propagated_verdict,
        failuresOf_zip whole]
      exact failures

end Cleanup

theorem Program.run_bind_done {program : Program Backend α} (change : α → β) {asker : Nat} :
    (program.bind fun result => .done (change result)).run peer asker before =
      (change (program.run peer asker before).1, (program.run peer asker before).2) := by
  induction program generalizing before with
  | done result => rfl
  | write event next ih => exact ih
  | ask query next ih => exact ih _
  | pause milliseconds next ih => exact ih _
  | look next ih => exact ih _

theorem Undertaking.run_andThen_done {γ : Type} {undertaking : Undertaking Backend γ α}
    (change : α → β) :
    (undertaking.andThen fun result => .done (change result)).run peer before =
      (change (undertaking.run peer before).1, (undertaking.run peer before).2) := by
  cases undertaking with
  | alone program => exact Program.run_bind_done change
  | together limit programs conclude => exact Program.run_bind_done change

namespace Chore

theorem accounts (before : Surroundings Backend σ)
    (quiet : ∀ event ∈ peer.notice, event.level ≠ .error) (naming : Naming) (settings : Settings) (chore : Chore) :
    let ended := (chore.undertaking naming settings).run peer before
    ∃ culprits, Accounts before ended.2 (propagated ended.1) culprits := by
  cases chore with
  | create service =>
      exact Program.accounts_run before quiet
        ((Provisioning.assureCreated_outspoken naming settings service).map _)
  | list host partition kind =>
      exact Program.accounts_run before quiet ((Catalog.list_outspoken host partition kind).map _)
  | routeDomains host partition =>
      exact Program.accounts_run before quiet ((Catalog.routeDomainNames_outspoken host partition).map _)
  | checkEmpty host partition =>
      exact Program.accounts_run before quiet
        ((Catalog.lacks_outspoken host partition Kind.loadBearing).map _)
  | delete retry host resource =>
      exact Program.accounts_run before quiet
        ((Deletion.attempt_outspoken retry.interval host resource retry.retries 1).map _)
  | clean service policy =>
      simp only [undertaking, Cleanup.ofService, Undertaking.run_andThen_done, propagated_map]
      exact Cleanup.undertaking_accounts before quiet settings.retry _ service.hosts policy

end Chore

theorem Culprit.complaint_eq_none_iff (culprit : Culprit) :
    culprit.complaint = none ↔ culprit.exchange.query.isRead :=
  culprit.raised.eq_none_iff

theorem length_complaints_iff :
    (complaints culprits).length = culprits.length ↔
      ∀ culprit ∈ culprits, culprit.exchange.query.isRead = false := by
  induction culprits with
  | nil => simp [complaints]
  | cons culprit culprits ih =>
      rw [List.forall_mem_cons, ← ih, complaints, List.filterMap_cons]
      cases complains : culprit.complaint with
      | none =>
          have read := culprit.complaint_eq_none_iff.mp complains
          have short := List.length_filterMap_le Culprit.complaint culprits
          simp only [read, List.length_cons, Bool.true_eq_false, false_and, iff_false]
          omega
      | some event =>
          have wrote : culprit.exchange.query.isRead = false := by
            rw [← Bool.not_eq_true, ← culprit.complaint_eq_none_iff, complains]
            exact Option.some_ne_none event
          simp [wrote, complaints]

def OneToOne (logged : List Event) (culprits : List Culprit) : Prop :=
  List.Forall₂ (fun event culprit => culprit.complaint = some event) logged culprits

theorem oneToOne_complaints_iff :
    OneToOne (complaints culprits) culprits ↔
      ∀ culprit ∈ culprits, culprit.exchange.query.isRead = false := by
  refine ⟨fun matched => length_complaints_iff.mp matched.length_eq, fun wrote => ?_⟩
  induction culprits with
  | nil => exact .nil
  | cons culprit culprits ih =>
      rw [List.forall_mem_cons] at wrote
      rw [complaints, List.filterMap_cons]
      cases complains : culprit.complaint with
      | none =>
          rw [culprit.complaint_eq_none_iff, wrote.1] at complains
          cases complains
      | some event => exact .cons complains (ih wrote.2)

/-- Against any fleet, with any faults and whenever shutdown is requested: the errors that are
logged correspond one to one and in order to the failures of calls that are passed on if and only
if none of these calls only reads. Where one only reads, there are fewer errors than failures. Where
nothing fails, no error is logged, whatever failures were passed over. -/
theorem errors_one_to_one_iff (naming : Naming) (settings : Settings) (chore : Chore)
    (raiseOnCall : Option Nat) (before : Surroundings Backend Estate) :
    let ended := (chore.undertaking naming settings).run (Estate.peer raiseOnCall) before
    ∃ culprits, Accounts before ended.2 (propagated ended.1) culprits ∧
      (OneToOne (complaints culprits) culprits ↔
        ∀ culprit ∈ culprits, culprit.exchange.query.isRead = false) ∧
      ((complaints culprits).length = (propagated ended.1).length ↔
        ∀ culprit ∈ culprits, culprit.exchange.query.isRead = false) ∧
      (ended.1.isOk → complaints culprits = []) := by
  intro ended
  have quiet : ∀ event ∈ (Estate.peer raiseOnCall).notice, event.level ≠ .error :=
    List.forall_mem_nil _
  obtain ⟨culprits, accounts⟩ := chore.accounts before quiet naming settings
  have size := accounts.failures.length_eq
  rw [List.length_map] at size
  refine ⟨culprits, accounts, oneToOne_complaints_iff, ?_, fun fine => ?_⟩
  · rw [← size]
    exact length_complaints_iff
  · have none : propagated ended.1 = [] := by
      generalize ended.1 = result at fine
      cases result with
      | ok answer => rfl
      | error failure => cases fine
    change culprits.length = (propagated ended.1).length at size
    rw [none, List.length_nil, List.length_eq_zero_iff] at size
    subst size
    rfl

def unreadableEstate : Estate where
  fleet := ⟨[("h1", ⟨["Project_t"], []⟩)]⟩
  latencies := []
  faults :=
    [⟨.list, none, none, none, none, 0, none, ⟨.other, "busy", none, none, none⟩, false⟩]

/-- A listing that fails ends the cleanup with its failure, and no error is logged. -/
theorem listing_failure_unlogged :
    let ended := ((Chore.clean ⟨"t", none, [⟨"h1"⟩]⟩ .abortOnFirstFailure).undertaking .default
      .default).run (Estate.peer none) (.start unreadableEstate)
    (propagated ended.1).map TenantError.message =
        ["failed to list route-domain in partition Project_t on h1"] ∧
      ended.2.errors = [] := by
  decide +kernel

end Tenancy
