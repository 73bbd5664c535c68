import Tenancy.Proofs.Cleanup.Opening
import Tenancy.Proofs.Teardown.Reliability

/-!
Cleanups converge. Whatever a series of passes did and wherever each of them stopped, one pass that
meets no faults and no request for shutdown ends the work, and leaves the fleet just as it would
have left the one that the series began with.
-/

namespace Tenancy.Cleanup

open Fleet Teardown

variable {retry : RetryPolicy} {partition : String} {hosts : List String}

theorem inTurn_dependable : Dependable (inTurn retry partition hosts) := by
  induction hosts with
  | nil => exact Action.reliable_pure _
  | cons host hosts ih =>
      exact run_dependable.bind fun _ => ih.bind fun _ => Action.reliable_pure _

structure Underway (partition : String) (hosts : List String) (start now : Fleet) : Prop
    extends Reduced partition hosts start now where
  frame : SameFrame now start
  closed : ∀ host, ¬ (start.host host).Open partition → now.host host = start.host host
  done : ∀ host, (start.host host).Open partition → partition ∉ (now.host host).folders →
    now.host host = (start.host host).cleared partition

namespace Underway

variable {start middle now : Fleet}

theorem refl (partition : String) (hosts : List String) (fleet : Fleet) :
    Underway partition hosts fleet fleet := by
  refine ⟨Reduced.refl partition hosts fleet, .refl fleet, fun _ _ => rfl, ?_⟩
  exact fun host isOpen gone => absurd isOpen.1 gone

theorem isOpen (underway : Underway partition hosts start now) {host : String}
    (isOpen : (start.host host).Open partition) (there : partition ∈ (now.host host).folders) :
    (now.host host).Open partition :=
  ⟨there, fun object left => isOpen.2 object ((underway.objects host).subset left)⟩

theorem trans (first : Underway partition hosts start middle)
    (second : Underway partition hosts middle now) : Underway partition hosts start now := by
  refine ⟨first.toReduced.trans second.toReduced, second.frame.trans first.frame, ?_, ?_⟩
  · intro host shut
    have kept := first.closed host shut
    rw [← kept] at shut ⊢
    exact second.closed host shut
  · intro host isOpen gone
    by_cases there : partition ∈ (middle.host host).folders
    · rw [second.done host (first.isOpen isOpen there) gone]
      exact first.cleared host
    · have shut : ¬ (middle.host host).Open partition := fun still => there still.1
      rw [second.closed host shut]
      exact first.done host isOpen there

end Underway

namespace Pass

variable {pass : Pass} {fleet : Fleet} {host : String} {trail : Trail Backend}

structure Calm (pass : Pass) (fleet : Fleet) : Prop where
  faultless : pass.faults = []
  unrequested : (pass.run fleet).2.requested = false

theorem Calm.smooth (calm : pass.Calm fleet)
    (known : trail.answers ⊆ (pass.exchanges fleet).map Exchange.reply)
    (tells : trail.Tells false) : ∀ sight ∈ trail, sight.smooth :=
  Estate.smooth_of_answered (pass.since fleet).answered calm.faultless known tells

theorem Calm.ok (calm : pass.Calm fleet) : (pass.run fleet).1.isOk := by
  cases policy : pass.policy with
  | abortOnFirstFailure =>
      obtain ⟨trail, outcomes, taken, same, answers, tells⟩ := yields_of_alone fleet policy
      have known : trail.answers ⊆ (pass.exchanges fleet).map Exchange.reply :=
        answers ▸ fun _ => List.mem_reverse.mp
      have fine := taken.ensured inTurn_dependable (calm.smooth known (tells calm.unrequested))
      rw [same]
      cases outcomes with
      | ok outcomes => rfl
      | error failure => cases fine
  | bestEffort maxParallel =>
      obtain ⟨events, ran⟩ := reports_of_together fleet policy
      rw [ran, verdict_isOk_iff, failuresOf_eq_nil_iff]
      intro entry member
      obtain ⟨place, inside⟩ := List.mem_iff_getElem?.mp member
      obtain ⟨placed, found⟩ := List.getElem?_zip_eq_some.mp inside
      obtain ⟨trail, taken, answers, tells⟩ := yields_of_together fleet policy placed found
      have known : trail.answers ⊆ (pass.exchanges fleet).map Exchange.reply :=
        answers ▸ Exchange.reverse_replies_subset _ _
      exact taken.ensured run_dependable (calm.smooth known (tells calm.unrequested))

theorem folder_gone_of_ok (candid : ∀ turn ∈ pass.turns fleet, turn.Candid)
    (ok : (pass.run fleet).1.isOk) (inside : host ∈ pass.service.hosts)
    (isOpen : (fleet.host host).Open pass.partition) :
    pass.partition ∉ ((pass.fleetAfter fleet).host host).folders := by
  rw [← reported_hosts ok] at inside
  obtain ⟨⟨other, outcome⟩, found, same⟩ := List.mem_map.mp inside
  obtain rfl : other = host := same
  obtain ⟨trail, succeeds, known⟩ := outcome_of_reported found
  rw [fleetAfter_eq]
  cases outcome with
  | removed => exact (pass.orderly fleet).folder_gone_of_removed candid succeeds known
  | absent => exact (pass.orderly fleet).folder_gone_of_absent succeeds known
  | notEmpty =>
      have bears := ((pass.orderly fleet).bears_of_notEmpty succeeds known).2
      exact absurd bears (Host.open_iff.mp isOpen).2

theorem underway (own : fleet.ListsOwn) (candid : ∀ turn ∈ pass.turns fleet, turn.Candid) :
    Underway pass.partition pass.service.hosts fleet (pass.fleetAfter fleet) := by
  have whole := (List.nil_append (pass.exchanges fleet)).symm
  have after := pass.fleetAfter_eq fleet
  refine ⟨?_, ?_, ?_, ?_⟩
  · exact after ▸ fleetAt_reduced own whole
  · exact after ▸ (pass.dwindles fleet).sameFrame
  · exact fun host shut => after ▸ (pass.orderly fleet).kept_of_not_open whole shut
  · intro host isOpen gone
    rw [after] at gone ⊢
    exact (pass.orderly fleet).cleared_of_folder_gone own.on candid isOpen.1 gone

theorem Calm.candid (calm : pass.Calm fleet) : ∀ turn ∈ pass.turns fleet, turn.Candid := by
  refine Estate.candid_of_honest (pass.since fleet).answered ?_
  have none : (pass.estate fleet).faults = [] := calm.faultless
  rw [none]
  exact List.forall_mem_nil _

/-- What is left to do, a calm pass does: the hosts that were open at the start are cleared. -/
theorem Calm.settles {start : Fleet} (own : start.ListsOwn)
    (underway : Underway pass.partition pass.service.hosts start fleet) (calm : pass.Calm fleet)
    (host : String) :
    (pass.fleetAfter fleet).host host =
      if host ∈ pass.service.hosts ∧ (start.host host).Open pass.partition then
        (start.host host).cleared pass.partition
      else start.host host := by
  have still := own.of_shrinks underway.toShrinks
  have whole := underway.trans (pass.underway still calm.candid)
  split
  next due =>
    refine whole.done host due.2 ?_
    by_cases there : pass.partition ∈ (fleet.host host).folders
    · exact folder_gone_of_ok calm.candid calm.ok due.1 (underway.isOpen due.2 there)
    · exact fun left => there (((pass.fleetAfter_shrinks fleet).folders host).subset left)
  next spared =>
    by_cases isOpen : (start.host host).Open pass.partition
    · exact whole.elsewhere host fun inside => spared ⟨inside, isOpen⟩
    · exact whole.closed host isOpen

end Pass

def leave : List Pass → Fleet → Fleet
  | [], fleet => fleet
  | pass :: passes, fleet => leave passes (pass.fleetAfter fleet)

variable {naming : Naming} {service : Service} {passes further : List Pass} {clean first : Pass}
  {fleet : Fleet}

theorem underway_leave (own : fleet.ListsOwn)
    (one : ∀ pass ∈ passes, pass.naming = naming ∧ pass.service = service)
    (candid : ∀ entry ∈ series passes fleet, ∀ turn ∈ entry.1.turns entry.2, turn.Candid) :
    Underway (naming.folderName service.tenant) service.hosts fleet (leave passes fleet) := by
  induction passes generalizing fleet with
  | nil => exact .refl _ _ fleet
  | cons pass passes ih =>
      rw [List.forall_mem_cons] at one
      rw [series, List.forall_mem_cons] at candid
      obtain ⟨⟨rfl, rfl⟩, others⟩ := one
      have next := own.of_shrinks (pass.fleetAfter_shrinks fleet)
      exact (pass.underway own candid.1).trans (ih next others candid.2)

theorem series_reads
    (one : ∀ pass ∈ passes, pass.naming = naming ∧ pass.service = service)
    (shut : ∀ host ∈ service.hosts,
      ¬ (fleet.host host).Open (naming.folderName service.tenant)) :
    ∀ entry ∈ series passes fleet,
      (∀ exchange ∈ entry.1.exchanges entry.2, exchange.query.changes = false) ∧
        entry.1.fleetAfter entry.2 = fleet := by
  induction passes with
  | nil => simp [series]
  | cons pass passes ih =>
      rw [List.forall_mem_cons] at one
      obtain ⟨⟨rfl, rfl⟩, others⟩ := one
      obtain ⟨reads, same⟩ := Pass.reads_of_none_open shut
      rw [series, List.forall_mem_cons, same]
      exact ⟨⟨reads, rfl⟩, ih others⟩

/-- However a series of cleanups goes, one calm pass after it succeeds and leaves the fleet that it
would have left at once: on each host of the service that was open the partition is cleared, and all
else is as it was. Any pass after that only reads and changes nothing. -/
theorem calm_pass_settles (own : fleet.ListsOwn)
    (one : ∀ pass ∈ clean :: first :: passes ++ further,
      pass.naming = naming ∧ pass.service = service)
    (candid : ∀ entry ∈ series passes fleet, ∀ turn ∈ entry.1.turns entry.2, turn.Candid)
    (calm : clean.Calm (leave passes fleet)) (atOnce : first.Calm fleet) :
    let partition := naming.folderName service.tenant
    let settled := clean.fleetAfter (leave passes fleet)
    (clean.run (leave passes fleet)).1.isOk ∧
    settled = first.fleetAfter fleet ∧
    (∀ host, settled.host host =
      if host ∈ service.hosts ∧ (fleet.host host).Open partition then
        (fleet.host host).cleared partition
      else fleet.host host) ∧
    ∀ entry ∈ series further settled,
      (∀ exchange ∈ entry.1.exchanges entry.2, exchange.query.changes = false) ∧
        entry.1.fleetAfter entry.2 = settled := by
  intro partition settled
  simp only [List.cons_append, List.forall_mem_cons, List.forall_mem_append] at one
  obtain ⟨⟨rfl, rfl⟩, ⟨sameNaming, sameService⟩, earlier, later⟩ := one
  have underway := underway_leave own earlier candid
  have still := own.of_shrinks underway.toShrinks
  have result := calm.settles own underway
  have same : settled = first.fleetAfter fleet := by
    have frame := (clean.underway still calm.candid).frame.trans underway.frame
    have other := (first.underway own atOnce.candid).frame
    refine (frame.trans other.symm).ext fun host => ?_
    have direct := atOnce.settles own (.refl _ _ fleet) host
    rw [Pass.partition, sameNaming, sameService] at direct
    exact (result host).trans direct.symm
  refine ⟨calm.ok, same, result, ?_⟩
  refine series_reads later fun host inside => ?_
  rw [result host]
  by_cases isOpen : (fleet.host host).Open clean.partition
  · rw [if_pos ⟨inside, isOpen⟩]
    exact Host.not_open_cleared
  · rw [if_neg fun due => isOpen due.2]
    exact isOpen

def calmPass : Pass :=
  ⟨.default, .default, ⟨"t", none, [⟨"h1"⟩, ⟨"h2"⟩]⟩, .abortOnFirstFailure, none, [], [], 0,
    none, []⟩

theorem calm_pass_settles_smallFleet :
    let passes := [expiringPass .abortOnFirstFailure, expiringPass .abortOnFirstFailure]
    smallFleet.ListsOwn ∧
      (∀ entry ∈ series passes smallFleet, ∀ turn ∈ entry.1.turns entry.2, turn.Candid) ∧
      calmPass.Calm (leave passes smallFleet) ∧ calmPass.Calm smallFleet ∧
      calmPass.fleetAfter (leave passes smallFleet) = calmPass.fleetAfter smallFleet := by
  intro passes
  have own : smallFleet.ListsOwn := listsOwn_of_hosts (by decide)
  have candid : ∀ entry ∈ series passes smallFleet,
      ∀ turn ∈ entry.1.turns entry.2, turn.Candid := by
    intro entry member
    refine Estate.candid_of_honest (entry.1.since entry.2).answered ?_
    have honest : ∀ pass ∈ passes, ∀ fault ∈ pass.faults, fault.IsHonest := by decide
    exact honest entry.1 (fst_mem_of_series entry member)
  have calm : calmPass.Calm (leave passes smallFleet) := ⟨rfl, by decide +kernel⟩
  have atOnce : calmPass.Calm smallFleet := ⟨rfl, by decide +kernel⟩
  have one : ∀ pass ∈ calmPass :: calmPass :: passes ++ [calmPass],
      pass.naming = calmPass.naming ∧ pass.service = calmPass.service := by decide
  exact ⟨own, candid, calm, atOnce, (calm_pass_settles own one candid calm atOnce).2.1⟩

end Tenancy.Cleanup
