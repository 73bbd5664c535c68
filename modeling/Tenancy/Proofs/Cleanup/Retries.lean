import Mathlib.Algebra.BigOperators.Group.List.Basic
import Tenancy.Proofs.Cleanup.Convergence
import Tenancy.Proofs.Cleanup.Course
import Tenancy.Proofs.Teardown.Masking

/-!
Retries mask expired sessions. As long as no deletion runs out of attempts, a cleanup under which
sessions expire comes to the same as one without faults, by the same calls, only later.
-/

namespace Tenancy.Cleanup

namespace Pass

variable {pass : Pass} {fleet : Fleet} {host : String} {trail alone : Trail Backend}
  {result ended : Except TenantError Outcome}

def faultless (pass : Pass) : Pass := { pass with faults := [] }

def repliesOf (pass : Pass) (fleet : Fleet) (host : String) : List Estate.Reply :=
  Estate.repliesOf host ((pass.exchanges fleet).map Exchange.reply).reverse

def expiries (pass : Pass) (fleet : Fleet) (host : String) : Nat :=
  (pass.repliesOf fleet host).countP Estate.Reply.expired

def calls (pass : Pass) (fleet : Fleet) (host : String) : List Request :=
  Request.collapse ((pass.repliesOf fleet host).map Sigma.fst)

/-- In the pass sessions expire before deletions, but never so often in a row that a deletion runs
out of attempts; there are no other faults, and shutdown is not requested. -/
structure Expiring (pass : Pass) (fleet : Fleet) : Prop where
  expires : ∀ fault ∈ pass.faults, fault.Expires
  patient : ∀ host ∈ pass.service.hosts,
    Estate.Patient (max 1 pass.retry.maxAttempts.toNat) (pass.repliesOf fleet host)
  calm : (pass.run fleet).2.requested = false

theorem limit_eq (policy : RetryPolicy) : max 1 policy.maxAttempts.toNat = policy.retries + 1 := by
  rw [RetryPolicy.retries]
  omega

theorem Expiring.excused (expiring : pass.Expiring fleet) (host : String) :
    ∃ final, Estate.Excused fleet (pass.repliesOf fleet host) final ∧
      final.host host = (pass.fleetAfter fleet).host host := by
  obtain ⟨told, came⟩ := Estate.tells_of_since (pass.since fleet)
  obtain ⟨final, excused, state⟩ :=
    @Estate.excused_of_tells (pass.estate fleet) fleet host _ expiring.expires rfl told
  rw [← came] at state
  exact ⟨final, excused, state⟩

theorem expiries_of_no_faults (none : pass.faults = []) : pass.expiries fleet host = 0 := by
  refine List.countP_eq_zero.mpr fun reply member expired => ?_
  have told := (Estate.tells_of_since (pass.since fleet)).1
  have never := Estate.not_expired_of_tells none told reply (List.mem_of_mem_filter member)
  rw [never] at expired
  cases expired

theorem Expiring.faultless (calm : (pass.faultless.run fleet).2.requested = false) :
    pass.faultless.Expiring fleet := by
  refine ⟨List.forall_mem_nil _, fun host inside request run part expired => ?_, calm⟩
  have none : pass.faultless.expiries fleet host = 0 := expiries_of_no_faults rfl
  have empty : run = [] := by
    refine List.eq_nil_iff_forall_not_mem.mpr fun reply member => ?_
    exact List.countP_eq_zero.mp none reply (part.subset member) (expired reply member).2
  rw [empty]
  exact Nat.lt_of_lt_of_le Nat.zero_lt_one (Nat.le_max_left _ _)

theorem Leads.same (leads : pass.Leads fleet host trail result) (expiring : pass.Expiring fleet)
    (inside : host ∈ pass.service.hosts)
    (taken : Program.Yields (Teardown.run pass.retry host pass.partition).run alone ended)
    (told : alone.ToldBy ((pass.estate fleet).faultless fleet)) :
    result = ended ∧
      (pass.fleetAfter fleet).host host =
        (((pass.estate fleet).faultless fleet).after alone.placed).fleet.host host ∧
      Request.Stutters trail.requests alone.requests ∧
      trail.lasts (pass.estate fleet).latency = alone.lasts (pass.estate fleet).latency +
        pass.expiries fleet host *
          (pass.retry.interval.milliseconds + pass.latencyOf host) := by
  obtain ⟨final, excused, state⟩ := expiring.excused host
  have patient := expiring.patient host inside
  rw [limit_eq, repliesOf, ← leads.placed] at patient
  rw [repliesOf, ← leads.placed] at excused
  have masks : (Teardown.run pass.retry host pass.partition).Masks pass.retry host
      (pass.estate fleet) := Teardown.run_masks
  obtain ⟨clean, goes, masked⟩ := masks trail result fleet final leads.taken leads.calm excused
    patient
  obtain ⟨alike, same⟩ :=
    Program.determined Teardown.run_heedless goes taken ⟨masked.calm, masked.told⟩ told
  refine ⟨same, ?_, ?_, ?_⟩
  · rw [← state, ← alike.placed, masked.state]
    rfl
  · rw [← alike.requests]
    exact masked.stutters
  · rw [← alike.lasts, expiries, repliesOf, ← leads.placed]
    exact masked.lasts

theorem exists_alone (pass : Pass) (fleet : Fleet) (host : String) :
    ∃ alone : Trail Backend, Program.Yields (Teardown.run pass.retry host pass.partition).run alone
        (pass.faultless.solo host fleet).1 ∧
      alone.ToldBy ((pass.estate fleet).faultless fleet) := by
  obtain ⟨alone, taken, told, -⟩ := pass.faultless.solo_trail host fleet (List.forall_mem_nil _)
  exact ⟨alone, taken, told⟩

theorem Expiring.ends (expiring : pass.Expiring fleet) (inside : host ∈ pass.service.hosts)
    (leads : pass.Leads fleet host trail result) :
    result = (pass.faultless.solo host fleet).1 := by
  obtain ⟨alone, taken, told⟩ := pass.exists_alone fleet host
  exact (leads.same expiring inside taken told).1

theorem Expiring.together_run {maxParallel : Nat} (expiring : pass.Expiring fleet)
    (policy : pass.policy = .bestEffort maxParallel) (distinct : pass.service.hosts.Nodup) :
    (pass.run fleet).1 = verdict (outcomesOf (pass.faultless.soloResults fleet))
      (failuresOf (pass.faultless.soloResults fleet)) := by
  refine together_run_of_ends policy fun place host placed => ?_
  obtain ⟨trail, result, found, leads⟩ := together_leads policy distinct expiring.calm placed
  rw [found, expiring.ends (List.mem_of_getElem? placed) leads]

theorem Expiring.in_turn_run (expiring : pass.Expiring fleet)
    (policy : pass.policy = .abortOnFirstFailure) (distinct : pass.service.hosts.Nodup) :
    (pass.run fleet).1 = firstVerdict (outcomesOf (pass.faultless.soloResults fleet))
      (failuresOf (pass.faultless.soloResults fleet)) := by
  obtain ⟨shares, reported, leads, -⟩ := in_turn_leads policy distinct expiring.calm
  refine in_turn_run_of_ends reported fun share member => ?_
  have inside := reported.1.subset (List.mem_map_of_mem member)
  exact expiring.ends inside (leads share member)

theorem Expiring.same_result (expiring : pass.Expiring fleet)
    (clean : pass.faultless.Expiring fleet) (distinct : pass.service.hosts.Nodup) :
    (pass.run fleet).1 = (pass.faultless.run fleet).1 := by
  cases policy : pass.policy with
  | abortOnFirstFailure =>
      exact (expiring.in_turn_run policy distinct).trans (clean.in_turn_run policy distinct).symm
  | bestEffort maxParallel =>
      exact (expiring.together_run policy distinct).trans (clean.together_run policy distinct).symm

structure MasksOn (pass : Pass) (fleet : Fleet) (host : String) : Prop where
  state : (pass.fleetAfter fleet).host host = (pass.faultless.fleetAfter fleet).host host
  calls : pass.calls fleet host = pass.faultless.calls fleet host
  time : Exchange.span host (pass.exchanges fleet) =
    Exchange.span host (pass.faultless.exchanges fleet) +
      pass.expiries fleet host * (pass.retry.interval.milliseconds + pass.latencyOf host)

theorem Leads.calls_eq (leads : pass.Leads fleet host trail result) :
    (pass.repliesOf fleet host).map Sigma.fst =
      trail.requests.filter fun request => request.host? = some host := by
  rw [repliesOf, ← leads.placed, Teardown.placed_eq_repliesOf leads.taken, Trail.requests,
    List.filter_map]
  rfl

theorem Expiring.masks_inside (expiring : pass.Expiring fleet)
    (clean : pass.faultless.Expiring fleet) (distinct : pass.service.hosts.Nodup)
    (ok : (pass.run fleet).1.isOk) (inside : host ∈ pass.service.hosts) :
    pass.MasksOn fleet host := by
  have fine : (pass.faultless.run fleet).1.isOk := expiring.same_result clean distinct ▸ ok
  obtain ⟨trail, outcome, leads⟩ := exists_leads distinct expiring.calm ok inside
  obtain ⟨other, outcome', leads'⟩ :=
    @exists_leads host pass.faultless fleet distinct clean.calm fine inside
  obtain ⟨alone, taken, told⟩ := pass.exists_alone fleet host
  obtain ⟨-, state, stutters, lasts⟩ := leads.same expiring inside taken told
  obtain ⟨-, state', stutters', lasts'⟩ := leads'.same clean inside taken told
  refine ⟨state.trans state'.symm, ?_, ?_⟩
  · rw [Pass.calls, Pass.calls, leads.calls_eq, leads'.calls_eq]
    exact (stutters.filter _).collapse_eq.trans (stutters'.filter _).collapse_eq.symm
  · have none : pass.faultless.expiries fleet host = 0 := expiries_of_no_faults rfl
    rw [none, Nat.zero_mul] at lasts'
    have same : Exchange.span host (pass.faultless.exchanges fleet) + pass.latencyOf host =
        alone.lasts (pass.estate fleet).latency := (leads'.span rfl).trans lasts'
    have span := leads.span rfl
    omega

theorem Expiring.kept_outside (expiring : pass.Expiring fleet)
    (outside : host ∉ pass.service.hosts) : (pass.fleetAfter fleet).host host = fleet.host host := by
  obtain ⟨final, excused, state⟩ := expiring.excused host
  have none : pass.repliesOf fleet host = [] := repliesOf_elsewhere outside
  rw [none] at excused
  cases excused with
  | done => exact state.symm

theorem span_outside (outside : host ∉ pass.service.hosts) :
    Exchange.span host (pass.exchanges fleet) = 0 := by
  have none : (Exchange.callsAt host (pass.exchanges fleet)).map Prod.snd = [] :=
    Exchange.callsAt_replies.trans (repliesOf_elsewhere outside)
  rw [Exchange.span, List.map_eq_nil_iff.mp none]
  rfl

theorem Expiring.masks_outside (expiring : pass.Expiring fleet)
    (clean : pass.faultless.Expiring fleet) (outside : host ∉ pass.service.hosts) :
    pass.MasksOn fleet host := by
  have none : pass.repliesOf fleet host = [] := repliesOf_elsewhere outside
  have none' : pass.faultless.repliesOf fleet host = [] :=
    @repliesOf_elsewhere pass.faultless fleet host outside
  refine ⟨?_, ?_, ?_⟩
  · rw [expiring.kept_outside outside, clean.kept_outside outside]
  · rw [calls, calls, none, none']
  · rw [span_outside outside, @span_outside pass.faultless fleet host outside, expiries, none,
      List.countP_nil, Nat.zero_mul]

theorem Expiring.masks (expiring : pass.Expiring fleet) (clean : pass.faultless.Expiring fleet)
    (distinct : pass.service.hosts.Nodup) (ok : (pass.run fleet).1.isOk) (host : String) :
    pass.MasksOn fleet host := by
  by_cases inside : host ∈ pass.service.hosts
  · exact expiring.masks_inside clean distinct ok inside
  · exact expiring.masks_outside clean inside

theorem Expiring.now_in_turn (expiring : pass.Expiring fleet)
    (clean : pass.faultless.Expiring fleet) (distinct : pass.service.hosts.Nodup)
    (ok : (pass.run fleet).1.isOk) (policy : pass.policy = .abortOnFirstFailure) :
    (pass.run fleet).2.now = (pass.faultless.run fleet).2.now +
      (pass.service.hosts.map fun host => pass.expiries fleet host *
        (pass.retry.interval.milliseconds + pass.latencyOf host)).sum := by
  have fine : (pass.faultless.run fleet).1.isOk := expiring.same_result clean distinct ▸ ok
  have later := now_of_in_turn policy distinct expiring.calm ok
  have sooner : (pass.faultless.run fleet).2.now = pass.now +
      (pass.service.hosts.map fun host =>
        Exchange.span host (pass.faultless.exchanges fleet) + pass.latencyOf host).sum :=
    @now_of_in_turn pass.faultless fleet policy distinct clean.calm fine
  rw [later, sooner, Nat.add_assoc, ← List.sum_map_add]
  refine congrArg (pass.now + List.sum ·) (List.map_congr_left fun host _ => ?_)
  rw [(expiring.masks clean distinct ok host).time]
  exact Nat.add_right_comm _ _ _

theorem patient_of_expiries {limit : Nat} (few : pass.expiries fleet host < limit) :
    Estate.Patient limit (pass.repliesOf fleet host) := by
  intro request run part expired
  have all : run.countP Estate.Reply.expired = run.length :=
    List.countP_eq_length.mpr fun reply member => (expired reply member).2
  have within : run.countP Estate.Reply.expired ≤ pass.expiries fleet host :=
    part.sublist.countP_le
  omega

end Pass

/-- Retries mask expired sessions. If sessions expire before deletions of drained objects, the
deletion being carried out or not, but never so often in a row that it runs out of attempts, then a
cleanup reports what it would report without faults and leaves the same fleet. On each host it makes
the same calls but for immediate repetitions of a deletion, and takes longer by the interval and its
own latency for each of these: by the intervals alone where it has none. -/
theorem retries_mask_expiries {pass : Pass} {fleet : Fleet} (distinct : pass.service.hosts.Nodup)
    (expiring : pass.Expiring fleet) (calm : (pass.faultless.run fleet).2.requested = false) :
    (∃ report, (pass.run fleet).1 = .ok report ∧ (pass.faultless.run fleet).1 = .ok report) ∧
      pass.fleetAfter fleet = pass.faultless.fleetAfter fleet ∧
      (∀ host, pass.MasksOn fleet host) ∧
      (pass.policy = .abortOnFirstFailure →
        (pass.run fleet).2.now = (pass.faultless.run fleet).2.now +
          (pass.service.hosts.map fun host => pass.expiries fleet host *
            (pass.retry.interval.milliseconds + pass.latencyOf host)).sum) := by
  have clean := Pass.Expiring.faultless calm
  have same := expiring.same_result clean distinct
  have fine : (pass.faultless.run fleet).1.isOk := Pass.Calm.ok ⟨rfl, calm⟩
  have ok : (pass.run fleet).1.isOk := same ▸ fine
  have masks := expiring.masks clean distinct ok
  refine ⟨?_, ?_, masks, expiring.now_in_turn clean distinct ok⟩
  · rw [← same]
    cases result : (pass.run fleet).1 with
    | error failure =>
        rw [result] at ok
        cases ok
    | ok report => exact ⟨report, rfl, rfl⟩
  · have frame (pass : Pass) : Fleet.SameFrame (pass.fleetAfter fleet) fleet := by
      rw [Pass.fleetAfter_eq]
      exact (pass.dwindles fleet).sameFrame
    exact ((frame pass).trans (frame pass.faultless).symm).ext fun host => (masks host).state

/-- Sessions on whatever host expire twice before a VLAN is deleted, the second time behind its
back. -/
def wearyPass (policy : Policy) : Pass :=
  ⟨.default, .default, ⟨"t", none, [⟨"h1"⟩, ⟨"h2"⟩]⟩, policy, none, [("h2", 3)],
    [{ expiry with host := none, applied := false }, { expiry with host := none }], 0, none, []⟩

theorem retries_mask_expiries_smallFleet :
    let pass := wearyPass .abortOnFirstFailure
    pass.service.hosts.Nodup ∧ pass.Expiring smallFleet ∧
      (pass.faultless.run smallFleet).2.requested = false ∧
      pass.expiries smallFleet "h1" = 2 ∧
      pass.fleetAfter smallFleet = pass.faultless.fleetAfter smallFleet := by
  intro pass
  have distinct : pass.service.hosts.Nodup := by decide
  have calm : (pass.run smallFleet).2.requested = false := Pass.requested_of_no_signal rfl
  have quiet : (pass.faultless.run smallFleet).2.requested = false :=
    Pass.requested_of_no_signal rfl
  have expires : ∀ fault ∈ pass.faults, fault.Expires :=
    List.forall_mem_cons.mpr ⟨Fault.expires_of_kind rfl rfl rfl (by decide),
      List.forall_mem_singleton.mpr (Fault.expires_of_kind rfl rfl rfl (by decide))⟩
  have first : pass.expiries smallFleet "h1" = 2 := by decide +kernel
  have second : pass.expiries smallFleet "h2" = 0 := by decide +kernel
  have expiring : pass.Expiring smallFleet := by
    refine ⟨expires, List.forall_mem_cons.mpr ⟨?_, List.forall_mem_singleton.mpr ?_⟩, calm⟩
    · exact Pass.patient_of_expiries (first ▸ by decide)
    · exact Pass.patient_of_expiries (second ▸ by decide)
  exact ⟨distinct, expiring, quiet, first, (retries_mask_expiries distinct expiring quiet).2.1⟩

end Tenancy.Cleanup
