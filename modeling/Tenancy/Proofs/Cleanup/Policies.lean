import Tenancy.Proofs.Cleanup.Independence

/-!
What the policies of a cleanup have in common. If the appliances do not disturb each other, both
policies are about the same results: side by side, all of them are reported; in turn, the first
failure is the end.
-/

namespace Tenancy.Cleanup

theorem outcomesOf_sublist (results : List (String × Except TenantError Outcome)) :
    ((outcomesOf results).map Prod.fst).Sublist (results.map Prod.fst) := by
  induction results with
  | nil => exact List.Sublist.refl []
  | cons entry results ih =>
      obtain ⟨host, failure | outcome⟩ := entry
      · exact ih.cons host
      · exact ih.cons_cons host

theorem failuresOf_sublist (results : List (String × Except TenantError Outcome)) :
    ((failuresOf results).map Prod.fst).Sublist (results.map Prod.fst) := by
  induction results with
  | nil => exact List.Sublist.refl []
  | cons entry results ih =>
      obtain ⟨host, failure | outcome⟩ := entry
      · exact ih.cons_cons host
      · exact ih.cons host

theorem outcomesOf_append_failuresOf_perm
    (results : List (String × Except TenantError Outcome)) :
    ((outcomesOf results).map Prod.fst ++ (failuresOf results).map Prod.fst).Perm
      (results.map Prod.fst) := by
  induction results with
  | nil => exact List.Perm.refl []
  | cons entry results ih =>
      obtain ⟨host, failure | outcome⟩ := entry
      · exact List.perm_middle.trans (ih.cons host)
      · exact ih.cons host

theorem firstVerdict_of_prefix {some all : List (String × Except TenantError Outcome)}
    (part : some <+: all)
    (whole : (firstVerdict (outcomesOf some) (failuresOf some)).isOk → some = all) :
    firstVerdict (outcomesOf some) (failuresOf some) =
      firstVerdict (outcomesOf all) (failuresOf all) := by
  obtain ⟨rest, rfl⟩ := part
  cases failures : failuresOf some with
  | nil =>
      have same := whole (by rw [failures]; rfl)
      rw [← same, failures]
  | cons failure others =>
      rw [failuresOf_append, failures]
      rfl

namespace Pass

variable {pass : Pass} {fleet : Fleet} {maxParallel : Nat} {first : String}
  {failure : TenantError} {others : List (String × TenantError)}

def under (pass : Pass) (policy : Policy) : Pass := { pass with policy := policy }

def soloResults (pass : Pass) (fleet : Fleet) : List (String × Except TenantError Outcome) :=
  pass.service.hosts.map fun host => (host, (pass.solo host fleet).1)

theorem soloResults_hosts (pass : Pass) (fleet : Fleet) :
    (pass.soloResults fleet).map Prod.fst = pass.service.hosts := by
  rw [soloResults, List.map_map]
  exact List.map_id _

def entries (pass : Pass) (ends : String → Except TenantError Outcome) :
    List (String × Except TenantError Outcome) :=
  pass.service.hosts.map fun host => (host, ends host)

variable {ends : String → Except TenantError Outcome}

theorem together_run_of_ends (policy : pass.policy = .bestEffort maxParallel)
    (found : ∀ (place : Nat) (host : String), pass.service.hosts[place]? = some host →
      (pass.batch fleet maxParallel).results[place]? = some (ends host)) :
    (pass.run fleet).1 =
      verdict (outcomesOf (pass.entries ends)) (failuresOf (pass.entries ends)) := by
  obtain ⟨events, ran⟩ := reports_of_together fleet policy
  have same : pass.service.hosts.zip (pass.batch fleet maxParallel).results =
      pass.entries ends := by
    refine List.ext_getElem? fun place => ?_
    rw [entries, List.getElem?_map]
    cases placed : pass.service.hosts[place]? with
    | none =>
        rw [List.getElem?_eq_none_iff] at placed
        exact List.getElem?_eq_none (by rw [List.length_zip]; omega)
    | some host => exact List.getElem?_zip_eq_some.mpr ⟨placed, found place host placed⟩
  rw [ran, same]

theorem together_run (policy : pass.policy = .bestEffort maxParallel)
    (distinct : pass.service.hosts.Nodup) (apart : ∀ fault ∈ pass.faults, fault.IsApart)
    (calm : (pass.run fleet).2.requested = false) :
    (pass.run fleet).1 =
      verdict (outcomesOf (pass.soloResults fleet)) (failuresOf (pass.soloResults fleet)) :=
  together_run_of_ends policy fun _ _ placed =>
    (together_as_solo policy distinct apart calm placed).result

theorem entries_of_ends {shares : List Share}
    (own : ∀ share ∈ shares, share.result = ends share.host) :
    shares.map Share.entry = (shares.map Share.host).map fun host => (host, ends host) := by
  rw [List.map_map]
  exact List.map_congr_left fun share member => congrArg (Prod.mk share.host) (own share member)

theorem in_turn_run_of_ends {shares : List Share}
    (reported : Reported pass.service.hosts shares (pass.run fleet).1 .abortOnFirstFailure)
    (own : ∀ share ∈ shares, share.result = ends share.host) :
    (pass.run fleet).1 =
      firstVerdict (outcomesOf (pass.entries ends)) (failuresOf (pass.entries ends)) := by
  obtain ⟨part, -, result, all⟩ := reported
  have known := entries_of_ends own
  rw [result] at all ⊢
  refine firstVerdict_of_prefix ?_ fun ok => ?_
  · rw [known]
    exact part.map _
  · rw [known, all ok]
    rfl

theorem in_turn_run (policy : pass.policy = .abortOnFirstFailure)
    (distinct : pass.service.hosts.Nodup) (apart : ∀ fault ∈ pass.faults, fault.IsApart)
    (calm : (pass.run fleet).2.requested = false) :
    (pass.run fleet).1 =
      firstVerdict (outcomesOf (pass.soloResults fleet)) (failuresOf (pass.soloResults fleet)) := by
  obtain ⟨shares, reported, -, solo⟩ := in_turn_as_solo policy distinct apart calm
  exact in_turn_run_of_ends reported fun share member => (solo share member).1

/-- The cleanup asks what the teardowns of the appliances up to this one ask, each alone, and
nothing of those after it. -/
def StopsAt (pass : Pass) (fleet : Fleet) (host : String) : Prop :=
  ∃ before after, pass.service.hosts = before ++ host :: after ∧
    heard (pass.exchanges fleet) =
      (before ++ [host]).flatMap (fun host => heard (pass.solo host fleet).2.exchanges) ∧
    ∀ exchange ∈ pass.exchanges fleet, ∀ other ∈ after, exchange.query.host? ≠ some other

theorem in_turn_stops (policy : pass.policy = .abortOnFirstFailure)
    (distinct : pass.service.hosts.Nodup) (apart : ∀ fault ∈ pass.faults, fault.IsApart)
    (calm : (pass.run fleet).2.requested = false)
    (failed : failuresOf (pass.soloResults fleet) = (first, failure) :: others) :
    pass.StopsAt fleet first := by
  obtain ⟨shares, reported, replies, solo⟩ := in_turn_as_solo policy distinct apart calm
  have ended : (pass.run fleet).1 = .error failure := by
    rw [in_turn_run policy distinct apart calm, failed]
    rfl
  rw [ended] at reported
  obtain ⟨before, last, rfl, known⟩ := reported.last
  obtain ⟨after, parts⟩ := reported.1
  -- The share of the failure is the one of the first host that fails.
  have entries := @entries_of_ends (fun host => (pass.solo host fleet).1) _
    fun share member => (solo share member).1
  rw [entries] at known
  rw [soloResults, ← parts, List.map_append, failuresOf_append, known] at failed
  cases failed
  rw [List.map_append, List.map_singleton, List.append_assoc, List.singleton_append] at parts
  refine ⟨before.map Share.host, after, parts.symm, ?_, fun exchange recorded other later own => ?_⟩
  · rw [replies, ← List.map_singleton, ← List.map_append, List.flatMap_map]
  · have member : Estate.Reply.mute exchange.reply ∈ heard (pass.exchanges fleet) := by
      refine List.mem_map_of_mem (List.mem_reverse.mpr ?_)
      exact List.mem_map_of_mem recorded
    rw [replies] at member
    obtain ⟨share, inside, asked⟩ := List.mem_flatMap.mp member
    have here : exchange.query.host? = some share.host :=
      host?_of_heard asked (show exchange.query.host?.isSome from own ▸ rfl)
    obtain rfl : share.host = other := Option.some.inj (here.symm.trans own)
    rw [← parts, List.append_cons, List.nodup_append] at distinct
    refine distinct.2.2 share.host ?_ share.host later rfl
    rw [← List.map_singleton, ← List.map_append]
    exact List.mem_map_of_mem inside

theorem in_turn_hosts (policy : pass.policy = .abortOnFirstFailure)
    (distinct : pass.service.hosts.Nodup) (apart : ∀ fault ∈ pass.faults, fault.IsApart)
    (calm : (pass.run fleet).2.requested = false)
    (none : failuresOf (pass.soloResults fleet) = []) {host : String}
    (inside : host ∈ pass.service.hosts) :
    (pass.fleetAfter fleet).host host = (pass.solo host fleet).2.state.fleet.host host := by
  obtain ⟨shares, ⟨-, -, -, all⟩, -, solo⟩ := in_turn_as_solo policy distinct apart calm
  have ok : (pass.run fleet).1.isOk := by
    rw [in_turn_run policy distinct apart calm, none]
    rfl
  rw [← all ok] at inside
  obtain ⟨share, member, rfl⟩ := List.mem_map.mp inside
  exact (solo share member).2

theorem same_fleet_of_no_failures (distinct : pass.service.hosts.Nodup)
    (apart : ∀ fault ∈ pass.faults, fault.IsApart)
    (calmTogether : ((pass.under (.bestEffort maxParallel)).run fleet).2.requested = false)
    (calmInTurn : ((pass.under .abortOnFirstFailure).run fleet).2.requested = false)
    (none : failuresOf (pass.soloResults fleet) = []) :
    (pass.under .abortOnFirstFailure).fleetAfter fleet =
      (pass.under (.bestEffort maxParallel)).fleetAfter fleet := by
  have frame (policy : Policy) : Fleet.SameFrame ((pass.under policy).fleetAfter fleet) fleet := by
    rw [fleetAfter_eq]
    exact ((pass.under policy).dwindles fleet).sameFrame
  refine ((frame _).trans (frame _).symm).ext fun host => ?_
  by_cases inside : host ∈ pass.service.hosts
  · obtain ⟨place, placed⟩ := List.mem_iff_getElem?.mp inside
    have inTurn := @in_turn_hosts (pass.under .abortOnFirstFailure) fleet rfl distinct apart
      calmInTurn none host inside
    have together : (pass.under (.bestEffort maxParallel)).AsSolo fleet maxParallel place host :=
      together_as_solo rfl distinct apart calmTogether placed
    exact inTurn.trans together.host.symm
  · have still (policy : Policy) : ((pass.under policy).fleetAfter fleet).host host =
        fleet.host host := fleetAfter_elsewhere apart inside
    exact (still _).trans (still _).symm

end Pass

/-- If the appliances of a service do not disturb each other, then side by side each of them is torn
down as if alone, and all results are reported in the order of the service, an outcome or a failure
for each. In turn, the same is reported and left if there are no failures; else the first of them is
the result, and nothing is asked of the appliances after it. -/
theorem policies_agree (pass : Pass) (fleet : Fleet) (maxParallel : Nat)
    (distinct : pass.service.hosts.Nodup) (apart : ∀ fault ∈ pass.faults, fault.IsApart)
    (calmTogether : ((pass.under (.bestEffort maxParallel)).run fleet).2.requested = false)
    (calmInTurn : ((pass.under .abortOnFirstFailure).run fleet).2.requested = false) :
    let together := pass.under (.bestEffort maxParallel)
    let inTurn := pass.under .abortOnFirstFailure
    let hosts := pass.service.hosts
    let outcomes := outcomesOf (pass.soloResults fleet)
    let failures := failuresOf (pass.soloResults fleet)
    (∀ place host, hosts[place]? = some host → together.AsSolo fleet maxParallel place host) ∧
    ((outcomes.map Prod.fst).Sublist hosts ∧ (failures.map Prod.fst).Sublist hosts ∧
      (outcomes.map Prod.fst ++ failures.map Prod.fst).Perm hosts) ∧
    (failures = [] → (together.run fleet).1 = .ok ⟨outcomes⟩ ∧
      (inTurn.run fleet).1 = .ok ⟨outcomes⟩ ∧
      inTurn.fleetAfter fleet = together.fleetAfter fleet) ∧
    ∀ first failure others, failures = (first, failure) :: others →
      (together.run fleet).1 = .error (.incomplete failures ⟨outcomes⟩) ∧
      (inTurn.run fleet).1 = .error failure ∧ inTurn.StopsAt fleet first := by
  intro together inTurn hosts outcomes failures
  have reported : (together.run fleet).1 = verdict outcomes failures :=
    Pass.together_run rfl distinct apart calmTogether
  have ended : (inTurn.run fleet).1 = firstVerdict outcomes failures :=
    Pass.in_turn_run rfl distinct apart calmInTurn
  have known : hosts = (pass.soloResults fleet).map Prod.fst :=
    (pass.soloResults_hosts fleet).symm
  refine ⟨fun place host placed => ?_, ⟨?_, ?_, ?_⟩, fun none => ⟨?_, ?_, ?_⟩,
    fun first failure others some => ⟨?_, ?_, ?_⟩⟩
  · exact Pass.together_as_solo rfl distinct apart calmTogether placed
  · rw [known]
    exact outcomesOf_sublist (pass.soloResults fleet)
  · rw [known]
    exact failuresOf_sublist (pass.soloResults fleet)
  · rw [known]
    exact outcomesOf_append_failuresOf_perm (pass.soloResults fleet)
  · rw [reported, none]
    rfl
  · rw [ended, none]
    rfl
  · exact Pass.same_fleet_of_no_failures distinct apart calmTogether calmInTurn none
  · rw [reported, some]
    rfl
  · rw [ended, some]
    rfl
  · exact Pass.in_turn_stops rfl distinct apart calmInTurn some

/-- The first host is slow, and its VLAN seems never to go. -/
def strickenPass : Pass :=
  ⟨.default, .default, ⟨"t", none, [⟨"h1"⟩, ⟨"h2"⟩]⟩, .bestEffort 2, none, [("h1", 3)],
    [{ expiry with times := none }], 0, none, []⟩

theorem policies_agree_strickenPass :
    strickenPass.service.hosts.Nodup ∧ (∀ fault ∈ strickenPass.faults, fault.IsApart) ∧
      (∀ policy, ((strickenPass.under policy).run smallFleet).2.requested = false) ∧
      (strickenPass.under (.bestEffort 2)).AsSolo smallFleet 2 1 "h2" ∧
      (strickenPass.under .abortOnFirstFailure).StopsAt smallFleet "h1" := by
  have distinct : strickenPass.service.hosts.Nodup := by decide
  have apart : ∀ fault ∈ strickenPass.faults, fault.IsApart :=
    List.forall_mem_singleton.mpr (.inr rfl)
  have calm (policy : Policy) : ((strickenPass.under policy).run smallFleet).2.requested = false :=
    Pass.requested_of_no_signal rfl
  have failed : (failuresOf (strickenPass.soloResults smallFleet)).map Prod.fst = ["h1"] := by
    decide +kernel
  obtain ⟨⟨first, failure⟩, others, cut, rfl, -⟩ := List.map_eq_cons_iff.mp failed
  have agree := policies_agree strickenPass smallFleet 2 distinct apart (calm _) (calm _)
  obtain ⟨-, -, stops⟩ := agree.2.2.2 _ failure others cut
  exact ⟨distinct, apart, calm, agree.1 1 "h2" rfl, stops⟩

end Tenancy.Cleanup
