import Mathlib.Data.List.Nodup
import Tenancy.Proofs.Cleanup.Safety
import Tenancy.Proofs.Cleanup.Solitude

/-!
The appliances of a cleanup do not disturb each other. If no shutdown is requested and no fault
bears on two appliances, then each of them is torn down as if it were the only one, side by side and
in turn.
-/

namespace Tenancy.Cleanup

namespace Pass

variable {pass : Pass} {fleet : Fleet} {host : String} {maxParallel place : Nat}

theorem repliesOf_elsewhere (outside : host ∉ pass.service.hosts) :
    Estate.repliesOf host ((pass.exchanges fleet).map Exchange.reply).reverse = [] := by
  refine List.filter_eq_nil_iff.mpr fun reply member own => ?_
  obtain ⟨exchange, recorded, rfl⟩ := List.mem_map.mp (List.mem_reverse.mp member)
  obtain ⟨later, earlier, cut⟩ := List.append_of_mem recorded
  obtain ⟨other, inside, seen, -, due⟩ := due cut
  rw [decide_eq_true_eq] at own
  have placed := due.host?_eq (own ▸ rfl)
  exact outside (Option.some.inj (own.symm.trans placed) ▸ inside)

theorem fleetAfter_elsewhere (apart : ∀ fault ∈ pass.faults, fault.IsApart)
    (outside : host ∉ pass.service.hosts) :
    (pass.fleetAfter fleet).host host = fleet.host host := by
  have none : Trail.placed [] =
      Estate.repliesOf host ((pass.exchanges fleet).map Exchange.reply).reverse :=
    (repliesOf_elsewhere outside).symm
  exact (toldBy_of_since (pass.since fleet) apart (List.forall_mem_nil _) none).2

theorem asker_of_host (policy : pass.policy = .bestEffort maxParallel)
    (distinct : pass.service.hosts.Nodup) (placed : pass.service.hosts[place]? = some host)
    {exchange : Exchange Backend} (member : exchange ∈ pass.exchanges fleet)
    (own : exchange.query.host? = some host) : exchange.asker = place := by
  obtain ⟨tracks, -⟩ := batch_tracks pass fleet maxParallel
  obtain ⟨events, ran⟩ := reports_of_together fleet policy
  have low : exchange.asker < pass.service.hosts.length := by
    rw [exchanges, ran] at member
    have bound := tracks.askers exchange member
    rwa [List.length_map] at bound
  have known := List.getElem?_eq_getElem low
  have inside : exchange.asker < (pass.batch fleet maxParallel).results.length :=
    (length_batch_results pass fleet maxParallel).symm ▸ low
  obtain ⟨trail, taken, answers, -⟩ :=
    yields_of_together fleet policy known (List.getElem?_eq_getElem inside)
  have heard : exchange.reply ∈ trail.answers := by
    rw [answers, Exchange.repliesTo, List.mem_reverse]
    exact List.mem_map_of_mem (List.mem_filter.mpr ⟨member, by simp⟩)
  have here := Teardown.host?_of_mem_answers taken heard (own ▸ rfl)
  have same : pass.service.hosts[exchange.asker] = host :=
    Option.some.inj (here.symm.trans own)
  exact (List.getElem?_inj low distinct).mp (by rw [known, same, placed])

/-- Side by side, the teardown at a place comes to what the teardown of this appliance alone comes
to: with the same result, by the same calls some time later, and with the host in the same state. -/
structure AsSolo (pass : Pass) (fleet : Fleet) (maxParallel place : Nat) (host : String) :
    Prop where
  result : (pass.batch fleet maxParallel).results[place]? = some (pass.solo host fleet).1
  calls : ∃ delay, callsOf place (pass.exchanges fleet) =
    (callsOf 0 (pass.solo host fleet).2.exchanges).map fun call => (delay + call.1, call.2)
  host : (pass.fleetAfter fleet).host host = (pass.solo host fleet).2.state.fleet.host host

theorem together_as_solo (policy : pass.policy = .bestEffort maxParallel)
    (distinct : pass.service.hosts.Nodup) (apart : ∀ fault ∈ pass.faults, fault.IsApart)
    (calm : (pass.run fleet).2.requested = false)
    (placed : pass.service.hosts[place]? = some host) :
    pass.AsSolo fleet maxParallel place host := by
  obtain ⟨events, ran⟩ := reports_of_together fleet policy
  have quiet : (pass.batch fleet maxParallel).surroundings.requested = false := by
    rw [ran] at calm
    exact calm
  have known : (pass.service.hosts.map fun host =>
      (Teardown.run pass.retry host pass.partition).run)[place]? =
        some (Teardown.run pass.retry host pass.partition).run := by
    rw [List.getElem?_map, placed]
    rfl
  obtain ⟨result, start, trail, found, taken, tells, calls⟩ :=
    Batch.run_timed (Estate.paced pass.raiseOnCall (pass.estate fleet))
      (Nat.lt_of_lt_of_le Nat.zero_lt_one (Nat.le_max_right maxParallel 1)) rfl rfl quiet known
  have recorded : (pass.batch fleet maxParallel).surroundings.exchanges = pass.exchanges fleet := by
    rw [exchanges, ran]
  change Exchange.callsOf place (pass.batch fleet maxParallel).surroundings.exchanges = _ at calls
  rw [recorded] at calls
  have answers : trail.answers = Exchange.repliesTo place (pass.exchanges fleet) := by
    rw [← Exchange.callsOf_replies, calls, Trail.calls_replies]
  have own : trail.placed =
      Estate.repliesOf host ((pass.exchanges fleet).map Exchange.reply).reverse := by
    rw [Teardown.placed_eq_repliesOf taken, answers]
    exact Estate.repliesOf_repliesTo fun exchange => asker_of_host policy distinct placed
  obtain ⟨told, state⟩ := toldBy_of_since (pass.since fleet) apart tells own
  obtain ⟨same, after, -, shifted⟩ := same_as_solo apart taken told state
  refine ⟨same ▸ found, ⟨start, ?_⟩, after⟩
  rw [callsOf, calls]
  exact shifted start

end Pass

variable {retry : RetryPolicy} {partition : String} {shares : List Share}

theorem repliesOf_shares
    (taken : ∀ share ∈ shares,
      Program.Yields (Teardown.run retry share.host partition).run share.before share.result)
    (distinct : (shares.map Share.host).Nodup) {share : Share} (member : share ∈ shares) :
    Estate.repliesOf share.host (Trail.answers (shares.flatMap Share.before)) =
      Estate.repliesOf share.host share.before.answers := by
  have others (before : List Share) (within : before ⊆ shares)
      (apart : share.host ∉ before.map Share.host) :
      Estate.repliesOf share.host (Trail.answers (before.flatMap Share.before)) = [] := by
    rw [Trail.answers_flatMap, Estate.repliesOf_flatMap, List.flatMap_eq_nil_iff]
    intro other found
    refine Teardown.repliesOf_other (taken other (within found)) fun same => ?_
    exact apart (same ▸ List.mem_map_of_mem found)
  obtain ⟨before, after, rfl⟩ := List.append_of_mem member
  rw [List.map_append, List.map_cons, List.nodup_middle, List.nodup_cons, List.mem_append,
    not_or] at distinct
  have first := others before (List.subset_append_left _ _) distinct.1.1
  have last := others after (fun _ found => by simp [found]) distinct.1.2
  rw [List.flatMap_append, List.flatMap_cons, Trail.answers_append, Trail.answers_append,
    Estate.repliesOf_append, Estate.repliesOf_append, first, last, List.nil_append,
    List.append_nil]

namespace Pass

variable {pass : Pass} {fleet : Fleet}

theorem in_turn_as_solo (policy : pass.policy = .abortOnFirstFailure)
    (distinct : pass.service.hosts.Nodup) (apart : ∀ fault ∈ pass.faults, fault.IsApart)
    (calm : (pass.run fleet).2.requested = false) :
    ∃ shares : List Share,
      Reported pass.service.hosts shares (pass.run fleet).1 .abortOnFirstFailure ∧
      heard (pass.exchanges fleet) =
        shares.flatMap (fun share => heard (pass.solo share.host fleet).2.exchanges) ∧
      ∀ share ∈ shares, share.result = (pass.solo share.host fleet).1 ∧
        (pass.fleetAfter fleet).host share.host =
          (pass.solo share.host fleet).2.state.fleet.host share.host := by
  obtain ⟨trail, outcomes, whole, same, answers, tells⟩ := yields_of_alone fleet policy
  rw [← List.append_nil trail] at whole
  obtain ⟨shares, rfl, none, -, valid, reported⟩ := inTurn_shares whole
  have taken : ∀ share ∈ shares,
      Program.Yields (Teardown.run pass.retry share.host pass.partition).run share.before
        share.result := by
    intro share member
    have part := valid share member
    rw [Share.Taken, List.flatMap_eq_nil_iff.mp none.symm share member, List.append_nil] at part
    exact part
  have apartHosts : (shares.map Share.host).Nodup := distinct.sublist reported.1.sublist
  have each : ∀ share ∈ shares, share.result = (pass.solo share.host fleet).1 ∧
      (pass.fleetAfter fleet).host share.host =
        (pass.solo share.host fleet).2.state.fleet.host share.host ∧
      share.before.answers.map Estate.Reply.mute =
        heard (pass.solo share.host fleet).2.exchanges := by
    intro share member
    have quiet : share.before.Tells false := fun sight inside =>
      tells calm sight (List.mem_flatMap.mpr ⟨share, member, inside⟩)
    have own : share.before.placed =
        Estate.repliesOf share.host ((pass.exchanges fleet).map Exchange.reply).reverse := by
      rw [← answers, repliesOf_shares taken apartHosts member]
      exact Teardown.placed_eq_repliesOf (taken share member)
    obtain ⟨told, state⟩ := toldBy_of_since (pass.since fleet) apart quiet own
    obtain ⟨result, after, replies, -⟩ := same_as_solo apart (taken share member) told state
    exact ⟨result, after, replies⟩
  refine ⟨shares, same ▸ reported, ?_, fun share member => ?_⟩
  · rw [heard, ← answers, Trail.answers_flatMap, List.map_flatMap]
    exact List.flatMap_congr fun share member => (each share member).2.2
  · obtain ⟨result, after, -⟩ := each share member
    exact ⟨result, after⟩

end Pass

end Tenancy.Cleanup
