import Tenancy.Cleanup
import Tenancy.Proofs.Batch.Course
import Tenancy.Proofs.Cleanup.Orderly

/-!
Passes of a cleanup, in turn or side by side. Whatever is asked in a pass is asked by the teardown
of one of its hosts, on a trail that takes this teardown to its end.
-/

namespace Tenancy.Cleanup

/-- One cleanup of a tenant, with all that is given anew for it. What one pass leaves to the next is
the fleet alone: the clock, the signal and the faults that strike may be anything. -/
structure Pass where
  naming : Naming
  retry : RetryPolicy
  service : Service
  policy : Policy
  raiseOnCall : Option Nat
  latencies : List (String × Nat)
  faults : List Fault
  now : Nat
  signal : Option Signal
  moments : List Moment

namespace Pass

def partition (pass : Pass) : String := pass.naming.folderName pass.service.tenant

def estate (pass : Pass) (fleet : Fleet) : Estate := ⟨fleet, pass.latencies, pass.faults⟩

def surroundings (pass : Pass) (fleet : Fleet) : Surroundings Backend Estate :=
  ⟨pass.estate fleet, pass.now, pass.signal, pass.moments, [], []⟩

def run (pass : Pass) (fleet : Fleet) :
    Except TenantError Report × Surroundings Backend Estate :=
  (ofService pass.naming pass.retry pass.service pass.policy).run (Estate.peer pass.raiseOnCall)
    (pass.surroundings fleet)

def exchanges (pass : Pass) (fleet : Fleet) : List (Exchange Backend) :=
  (pass.run fleet).2.exchanges

def fleetAfter (pass : Pass) (fleet : Fleet) : Fleet := (pass.run fleet).2.state.fleet

def turns (pass : Pass) (fleet : Fleet) : List (Turn Backend Estate) :=
  (Estate.peer pass.raiseOnCall).turns (pass.estate fleet) (pass.exchanges fleet)

def reported (pass : Pass) (fleet : Fleet) : List (String × Outcome) :=
  match (pass.run fleet).1 with
  | .ok report => report.outcomes
  | .error failure =>
      match pass.policy, failure with
      | .bestEffort _, .incomplete _ report => report.outcomes
      | _, _ => []

end Pass

def series : List Pass → Fleet → List (Pass × Fleet)
  | [], _ => []
  | pass :: passes, fleet => (pass, fleet) :: series passes (pass.fleetAfter fleet)

variable {retry : RetryPolicy} {partition : String} {hosts : List String}

theorem inTurn_part {before after : Trail Backend} {query : Request} {answer : query.Answer}
    {result : Except TenantError (List (String × Outcome))}
    (taken : Program.Yields (inTurn retry partition hosts).run
      (before ++ .asked query answer :: after) result) :
    ∃ host ∈ hosts, ∃ first last ended,
      Program.Yields (Teardown.run retry host partition).run
        (first ++ .asked query answer :: last) ended ∧
      first ⊆ before ∧ last ⊆ after ∧ (result.isOk → ended.isOk) := by
  induction hosts generalizing before result with
  | nil => simp [inTurn, Program.Yields] at taken
  | cons host hosts ih =>
      rw [inTurn] at taken
      obtain ⟨failure, ends, rfl⟩ | ⟨outcome, first, second, same, ends, goes⟩ :=
        Action.yields_bind_iff.mp taken
      · exact ⟨host, List.mem_cons_self, before, after, .error failure, ends,
          List.Subset.refl _, List.Subset.refl _, id⟩
      obtain ⟨middle, rfl, rfl⟩ | ⟨middle, rfl, rfl⟩ := Trail.append_eq_cut.mp same.symm
      · obtain ⟨failure, ends, rfl⟩ | ⟨outcomes, part, _, cut, ends, goes⟩ :=
          Action.yields_bind_iff.mp goes
        · obtain ⟨other, member, head, last, ended, part, early, late, fine⟩ := ih ends
          exact ⟨other, List.mem_cons_of_mem _ member, head, last, ended, part,
            List.Subset.trans early (List.subset_append_right _ _), late, fine⟩
        · obtain ⟨rfl, rfl⟩ := goes
          rw [List.append_nil] at cut
          subst cut
          obtain ⟨other, member, head, last, ended, part, early, late, fine⟩ := ih ends
          exact ⟨other, List.mem_cons_of_mem _ member, head, last, ended, part,
            List.Subset.trans early (List.subset_append_right _ _), late, fun _ => fine rfl⟩
      · exact ⟨host, List.mem_cons_self, before, middle, .ok outcome, ends,
          List.Subset.refl _, List.subset_append_left _ _, fun _ => rfl⟩

theorem inTurn_hosts {trail : Trail Backend} {outcomes : List (String × Outcome)}
    (taken : (inTurn retry partition hosts).Succeeds trail outcomes) :
    outcomes.map Prod.fst = hosts := by
  induction hosts generalizing trail outcomes with
  | nil =>
      obtain ⟨-, rfl⟩ := Action.succeeds_pure_iff.mp taken
      rfl
  | cons host hosts ih =>
      rw [inTurn] at taken
      obtain ⟨outcome, _, _, -, -, goes⟩ := Action.succeeds_bind_iff.mp taken
      obtain ⟨others, _, _, -, rest, last⟩ := Action.succeeds_bind_iff.mp goes
      obtain ⟨-, rfl⟩ := Action.succeeds_pure_iff.mp last
      exact congrArg (host :: ·) (ih rest)

theorem inTurn_outcome {trail : Trail Backend} {outcomes : List (String × Outcome)}
    (taken : (inTurn retry partition hosts).Succeeds trail outcomes) {host : String}
    {outcome : Outcome} (member : (host, outcome) ∈ outcomes) :
    ∃ own ⊆ trail, (Teardown.run retry host partition).Succeeds own outcome := by
  induction hosts generalizing trail outcomes with
  | nil =>
      obtain ⟨-, rfl⟩ := Action.succeeds_pure_iff.mp taken
      cases member
  | cons first hosts ih =>
      rw [inTurn] at taken
      obtain ⟨ended, head, _, rfl, ends, goes⟩ := Action.succeeds_bind_iff.mp taken
      obtain ⟨others, tail, _, rfl, rest, last⟩ := Action.succeeds_bind_iff.mp goes
      obtain ⟨rfl, rfl⟩ := Action.succeeds_pure_iff.mp last
      rw [List.append_nil]
      obtain same | later := List.mem_cons.mp member
      · cases same
        exact ⟨head, List.subset_append_left _ _, ends⟩
      · obtain ⟨own, within, succeeds⟩ := ih rest later
        exact ⟨own, List.Subset.trans within (List.subset_append_right _ _), succeeds⟩

def outcomesOf (results : List (String × Except TenantError Outcome)) : List (String × Outcome) :=
  results.filterMap fun (host, result) => result.toOption.map (host, ·)

theorem outcomesOf_hosts {results : List (String × Except TenantError Outcome)}
    (fine : ∀ entry ∈ results, entry.2.isOk) :
    (outcomesOf results).map Prod.fst = results.map Prod.fst := by
  induction results with
  | nil => rfl
  | cons entry results ih =>
      rw [List.forall_mem_cons] at fine
      obtain ⟨host, failure | outcome⟩ := entry
      · cases fine.1
      · exact congrArg (host :: ·) (ih fine.2)

def failuresOf (results : List (String × Except TenantError Outcome)) :
    List (String × TenantError) :=
  results.filterMap fun
    | (_, .ok _) => none
    | (host, .error failure) => some (host, failure)

theorem failuresOf_eq_nil_iff {results : List (String × Except TenantError Outcome)} :
    failuresOf results = [] ↔ ∀ entry ∈ results, entry.2.isOk := by
  rw [failuresOf, List.filterMap_eq_nil_iff]
  refine forall_congr' fun entry => imp_congr_right fun _ => ?_
  obtain ⟨host, failure | outcome⟩ := entry
  · simp [Except.isOk, Except.toBool]
  · simp [Except.isOk, Except.toBool]

theorem failuresOf_append (first second : List (String × Except TenantError Outcome)) :
    failuresOf (first ++ second) = failuresOf first ++ failuresOf second :=
  List.filterMap_append

def verdict (outcomes : List (String × Outcome)) (failures : List (String × TenantError)) :
    Except TenantError Report :=
  if failures.isEmpty then .ok ⟨outcomes⟩ else .error (.incomplete failures ⟨outcomes⟩)

theorem verdict_isOk_iff {outcomes : List (String × Outcome)}
    {failures : List (String × TenantError)} :
    (verdict outcomes failures).isOk ↔ failures = [] := by
  cases failures with
  | nil => simp [verdict, Except.isOk, Except.toBool]
  | cons failure failures => simp [verdict, Except.isOk, Except.toBool]

def firstVerdict (outcomes : List (String × Outcome)) :
    List (String × TenantError) → Except TenantError Report
  | [] => .ok ⟨outcomes⟩
  | (_, failure) :: _ => .error failure

theorem conclude_run {σ : Type} (partition : String) (peer : Peer Backend σ) (asker : Nat)
    (surroundings : Surroundings Backend σ) (outcomes : List (String × Outcome))
    (failures : List (String × TenantError))
    (results : List (String × Except TenantError Outcome)) :
    ∃ events, Program.run (conclude partition outcomes failures results).run peer asker
        surroundings =
      (verdict (outcomes.reverse ++ outcomesOf results) (failures.reverse ++ failuresOf results),
        { surroundings with events := events }) := by
  induction results generalizing outcomes failures surroundings with
  | nil =>
      refine ⟨surroundings.events, ?_⟩
      cases failures with
      | nil => simp [conclude, outcomesOf, failuresOf, verdict, Program.run]
      | cons failure failures =>
          simp [conclude, outcomesOf, failuresOf, verdict, Program.run]
  | cons entry results ih =>
      obtain ⟨host, failure | outcome⟩ := entry
      · have skipped : failures.reverse ++ failuresOf ((host, .error failure) :: results) =
            ((host, failure) :: failures).reverse ++ failuresOf results := by
          simp [failuresOf]
        rw [skipped]
        exact ih (surroundings.write ⟨.warn, .manager, "Cleanup of " ++ partition ++ " on " ++
          host ++ " failed: " ++ failure.message⟩) outcomes ((host, failure) :: failures)
      · have kept : outcomes.reverse ++ outcomesOf ((host, .ok outcome) :: results) =
            ((host, outcome) :: outcomes).reverse ++ outcomesOf results := by
          simp [outcomesOf, Except.toOption]
        rw [kept]
        exact ih surroundings ((host, outcome) :: outcomes) failures

namespace Pass

variable {pass : Pass} {fleet : Fleet} {later earlier : List (Exchange Backend)}
  {exchange : Exchange Backend}

def batch (pass : Pass) (fleet : Fleet) (maxParallel : Nat) :
    Batch Backend Estate (Except TenantError Outcome) :=
  (Batch.start (pass.surroundings fleet) (max maxParallel 1)
    (pass.service.hosts.map fun host =>
      (Teardown.run pass.retry host pass.partition).run)).run (Estate.peer pass.raiseOnCall)

theorem batch_tracks (pass : Pass) (fleet : Fleet) (maxParallel : Nat) :
    let programs := pass.service.hosts.map fun host =>
      (Teardown.run pass.retry host pass.partition).run
    let batch := pass.batch fleet maxParallel
    Batch.Tracks programs (Estate.peer pass.raiseOnCall) (pass.estate fleet) batch ∧
      batch.rests = batch.results.map .done :=
  ⟨(Batch.tracks_start (pass.surroundings fleet) (max maxParallel 1) rfl).run,
    Batch.rests_run _ (Nat.lt_of_lt_of_le Nat.zero_lt_one (Nat.le_max_right maxParallel 1))⟩

theorem run_of_alone (policy : pass.policy = .abortOnFirstFailure) :
    pass.run fleet =
      Program.run (Report.mk <$> inTurn pass.retry pass.partition pass.service.hosts).run
        (Estate.peer pass.raiseOnCall) 0 (pass.surroundings fleet) := by
  rw [run, ofService, policy]
  rfl

theorem run_of_together {maxParallel : Nat} (policy : pass.policy = .bestEffort maxParallel) :
    pass.run fleet =
      Program.run
        (conclude pass.partition [] []
          (pass.service.hosts.zip (pass.batch fleet maxParallel).results)).run
        (Estate.peer pass.raiseOnCall) 0 (pass.batch fleet maxParallel).surroundings := by
  rw [run, ofService, policy]
  rfl

theorem yields_of_alone (fleet : Fleet) (policy : pass.policy = .abortOnFirstFailure) :
    ∃ (trail : Trail Backend) (outcomes : Except TenantError (List (String × Outcome))),
      Program.Yields (inTurn pass.retry pass.partition pass.service.hosts).run trail outcomes ∧
      (pass.run fleet).1 = Report.mk <$> outcomes ∧
      trail.answers = ((pass.exchanges fleet).map Exchange.reply).reverse ∧
      ((pass.run fleet).2.requested = false → trail.Tells false) := by
  rw [exchanges, run_of_alone policy]
  obtain ⟨outcomes, taken, same⟩ := Action.yields_map_iff.mp
    (Program.yields_trail (Report.mk <$> inTurn pass.retry pass.partition pass.service.hosts).run
      (Estate.peer pass.raiseOnCall) 0 (pass.surroundings fleet))
  exact ⟨_, outcomes, taken, same, Program.trail_answers _ _ _ _ rfl, Program.trail_tells⟩

theorem reports_of_together {maxParallel : Nat} (fleet : Fleet)
    (policy : pass.policy = .bestEffort maxParallel) :
    let results := pass.service.hosts.zip (pass.batch fleet maxParallel).results
    ∃ events, pass.run fleet = (verdict (outcomesOf results) (failuresOf results),
      { (pass.batch fleet maxParallel).surroundings with events := events }) := by
  rw [run_of_together policy]
  exact conclude_run pass.partition (Estate.peer pass.raiseOnCall) 0
    (pass.batch fleet maxParallel).surroundings [] []
    (pass.service.hosts.zip (pass.batch fleet maxParallel).results)

theorem yields_of_together {maxParallel : Nat} (fleet : Fleet)
    (policy : pass.policy = .bestEffort maxParallel) {place : Nat} {host : String}
    {result : Except TenantError Outcome} (placed : pass.service.hosts[place]? = some host)
    (found : (pass.batch fleet maxParallel).results[place]? = some result) :
    ∃ trail : Trail Backend,
      Program.Yields (Teardown.run pass.retry host pass.partition).run trail result ∧
      trail.answers = Exchange.repliesTo place (pass.exchanges fleet) ∧
      ((pass.run fleet).2.requested = false → trail.Tells false) := by
  obtain ⟨events, ran⟩ := reports_of_together fleet policy
  have left : (pass.batch fleet maxParallel).rests[place]? = some (.done result) := by
    rw [(batch_tracks pass fleet maxParallel).2, List.getElem?_map, found]
    rfl
  obtain ⟨program, trail, known, goes⟩ := (Batch.reaches_run _ _).leads.goes left
  have started : some (Teardown.run pass.retry host pass.partition).run = some program := by
    simpa [Batch.start, Batch.rests, Task.rest, Function.comp_def, placed] using known
  obtain rfl := Option.some.inj started
  have taken : Program.Yields _ (trail ++ []) result := goes.leaves.takes ⟨rfl, rfl⟩
  rw [List.append_nil] at taken
  rw [exchanges, ran]
  exact ⟨trail, taken, goes.replies.symm, goes.calm⟩

theorem requested_of_no_signal (absent : pass.signal = none) :
    (pass.run fleet).2.requested = false := by
  have silent : (pass.run fleet).2.signal = none := by
    cases policy : pass.policy with
    | abortOnFirstFailure =>
        rw [run_of_alone policy]
        exact Program.signal_run_of_none absent
    | bestEffort maxParallel =>
        rw [run_of_together policy]
        exact Program.signal_run_of_none (Batch.signal_run_of_none absent)
  rw [Surroundings.requested, silent]
  rfl

theorem since (pass : Pass) (fleet : Fleet) :
    (pass.run fleet).2.Since (Estate.peer pass.raiseOnCall) (pass.estate fleet) := by
  cases policy : pass.policy with
  | abortOnFirstFailure =>
      rw [run_of_alone policy]
      have fresh : (pass.surroundings fleet).Since (Estate.peer pass.raiseOnCall)
          (pass.estate fleet) := ⟨rfl, trivial⟩
      exact fresh.run _ 0
  | bestEffort maxParallel =>
      rw [run_of_together policy]
      exact (batch_tracks pass fleet maxParallel).1.since.run _ 0

/-- Each exchange of a pass stands on the trail of the teardown of one of its hosts, and this
teardown does not fail if the pass does not. -/
theorem makes (cut : pass.exchanges fleet = later ++ exchange :: earlier) :
    ∃ host ∈ pass.service.hosts, ∃ ended,
      Program.Makes (Teardown.run pass.retry host pass.partition).run ended later exchange
        earlier ∧ ((pass.run fleet).1.isOk → ended.isOk) := by
  cases policy : pass.policy with
  | abortOnFirstFailure =>
      obtain ⟨trail, outcomes, taken, same, answers, -⟩ := yields_of_alone fleet policy
      have all : (later ++ exchange :: earlier).filter (fun _ => true) =
          later ++ exchange :: earlier := List.filter_eq_self.mpr fun _ _ => rfl
      obtain ⟨before, after, whole, early, late⟩ :=
        taken.makes (fun _ => true) (by rw [answers, cut, all]) rfl
      obtain ⟨host, member, first, last, ended, part, within, beyond, fine⟩ := inTurn_part whole
      refine ⟨host, member, ended, ⟨first, last, part, ?_, ?_⟩, fun ok => fine ?_⟩
      · exact List.Subset.trans (Trail.answers_subset within) early
      · exact List.Subset.trans (Trail.answers_subset beyond) late
      · rw [same] at ok
        cases outcomes with
        | ok outcomes => rfl
        | error failure => cases ok
  | bestEffort maxParallel =>
      obtain ⟨events, ran⟩ := reports_of_together fleet policy
      rw [exchanges, ran] at cut
      obtain ⟨tracks, ended⟩ := batch_tracks pass fleet maxParallel
      obtain ⟨place, program, result, known, found, makes⟩ := tracks.makes ended cut
      rw [List.getElem?_map, Option.map_eq_some_iff] at known
      obtain ⟨host, placed, rfl⟩ := known
      refine ⟨host, List.mem_of_getElem? placed, result, makes, fun ok => ?_⟩
      rw [ran, verdict_isOk_iff, failuresOf_eq_nil_iff] at ok
      have entry : (pass.service.hosts.zip (pass.batch fleet maxParallel).results)[place]? =
          some (host, result) := List.getElem?_zip_eq_some.mpr ⟨placed, found⟩
      exact ok _ (List.mem_of_getElem? entry)

theorem length_batch_results (pass : Pass) (fleet : Fleet) (maxParallel : Nat) :
    (pass.batch fleet maxParallel).results.length = pass.service.hosts.length := by
  obtain ⟨tracks, ended⟩ := batch_tracks pass fleet maxParallel
  rw [tracks.length_results ended, List.length_map]

theorem reported_hosts (ok : (pass.run fleet).1.isOk) :
    (pass.reported fleet).map Prod.fst = pass.service.hosts := by
  cases policy : pass.policy with
  | abortOnFirstFailure =>
      obtain ⟨trail, outcomes, taken, same, -⟩ := yields_of_alone fleet policy
      rw [same] at ok
      rw [reported, same]
      cases outcomes with
      | error failure => cases ok
      | ok outcomes => exact inTurn_hosts taken
  | bestEffort maxParallel =>
      obtain ⟨events, ran⟩ := reports_of_together fleet policy
      rw [ran, verdict_isOk_iff] at ok
      have fine := failuresOf_eq_nil_iff.mp ok
      rw [reported, ran, ok]
      refine (outcomesOf_hosts fine).trans (List.map_fst_zip ?_)
      exact Nat.le_of_eq (length_batch_results pass fleet maxParallel).symm

theorem outcome_of_reported {host : String} {outcome : Outcome}
    (found : (host, outcome) ∈ pass.reported fleet) :
    ∃ trail : Trail Backend,
      (Teardown.run pass.retry host pass.partition).Succeeds trail outcome ∧
      trail.answers ⊆ (pass.exchanges fleet).map Exchange.reply := by
  cases policy : pass.policy with
  | abortOnFirstFailure =>
      obtain ⟨trail, outcomes, taken, same, answers, -⟩ := yields_of_alone fleet policy
      rw [reported, policy, same] at found
      cases outcomes with
      | error failure => exact absurd found List.not_mem_nil
      | ok outcomes =>
          obtain ⟨own, within, succeeds⟩ := inTurn_outcome taken found
          refine ⟨own, succeeds, List.Subset.trans (Trail.answers_subset within) ?_⟩
          rw [answers]
          exact fun reply member => List.mem_reverse.mp member
  | bestEffort maxParallel =>
      obtain ⟨events, ran⟩ := reports_of_together fleet policy
      have member : (host, outcome) ∈
          outcomesOf (pass.service.hosts.zip (pass.batch fleet maxParallel).results) := by
        generalize failuresOf _ = failures at ran
        rw [reported, policy, ran] at found
        cases failures with
        | nil => exact found
        | cons failure failures => exact found
      obtain ⟨⟨other, result⟩, zipped, same⟩ := List.mem_filterMap.mp member
      obtain ⟨place, inside⟩ := List.mem_iff_getElem?.mp zipped
      obtain ⟨placed, resulted⟩ := List.getElem?_zip_eq_some.mp inside
      cases result with
      | error failure => cases same
      | ok outcome =>
          cases same
          obtain ⟨trail, succeeds, answers, -⟩ := yields_of_together fleet policy placed resulted
          refine ⟨trail, succeeds, ?_⟩
          rw [answers]
          exact Exchange.reverse_replies_subset _ _

theorem orderly (pass : Pass) (fleet : Fleet) :
    Orderly pass.partition pass.service.hosts (pass.run fleet).1.isOk pass.raiseOnCall
      (pass.estate fleet) (pass.exchanges fleet) := by
  refine ⟨(pass.since fleet).answered, fun later exchange earlier cut => ?_⟩
  obtain ⟨host, member, ended, makes, fine⟩ := makes cut
  exact ⟨pass.retry, host, member, ended, makes, fine⟩

theorem due (cut : pass.exchanges fleet = later ++ exchange :: earlier) :
    ∃ host ∈ pass.service.hosts, ∃ seen : Trail Backend,
      seen.answers ⊆ earlier.map Exchange.reply ∧
        Teardown.Due host pass.partition seen exchange.query :=
  (pass.orderly fleet).due cut

theorem dwindles (pass : Pass) (fleet : Fleet) :
    Estate.Dwindles pass.raiseOnCall (pass.estate fleet) (pass.exchanges fleet) :=
  (pass.orderly fleet).dwindles

theorem fleetAfter_eq (pass : Pass) (fleet : Fleet) :
    pass.fleetAfter fleet =
      Estate.fleetAt pass.raiseOnCall (pass.estate fleet) (pass.exchanges fleet) :=
  congrArg Estate.fleet (pass.since fleet).state

theorem fleetAfter_shrinks (pass : Pass) (fleet : Fleet) :
    fleet.Shrinks (pass.fleetAfter fleet) := by
  rw [fleetAfter_eq]
  exact (pass.dwindles fleet).shrinks_start

end Pass

end Tenancy.Cleanup
