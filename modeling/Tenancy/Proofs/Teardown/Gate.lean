import Tenancy.Proofs.Estate
import Tenancy.Proofs.Teardown.Completion

/-!
The gate before a teardown: nothing is changed before the reads of this very pass have shown that
the folder exists and that nothing in the partition carries traffic. The main statement covers
every request for a change, not only the first, and says how each pass ends that the gate stops.
-/

namespace Tenancy.Teardown

open Tenancy.Action

/-- The trails of the teardowns that the gate stops, with their results. -/
inductive Gated (host partition : String) : Trail Backend → Except TenantError Outcome → Prop
  | probeFails (source) :
      Gated host partition [.asked (.probe host .folder partition) (.error source)]
        (.error (.catalog host partition .folder source))
  | absent :
      Gated host partition [.asked (.probe host .folder partition) (.ok false)] (.ok .absent)
  | domainsFail (source) :
      Gated host partition
        [.asked (.probe host .folder partition) (.ok true),
          .asked (.list host .routeDomain partition) (.error source)]
        (.error (.catalog host partition .routeDomain source))
  | addressesFail (domains source) :
      Gated host partition
        [.asked (.probe host .folder partition) (.ok true),
          .asked (.list host .routeDomain partition) (.ok domains),
          .asked (.list host .virtualAddress partition) (.error source)]
        (.error (.catalog host partition .virtualAddress source))
  | addressesLeft (domains address addresses) :
      Gated host partition
        [.asked (.probe host .folder partition) (.ok true),
          .asked (.list host .routeDomain partition) (.ok domains),
          .asked (.list host .virtualAddress partition) (.ok (address :: addresses))]
        (.ok .notEmpty)
  | nodesFail (domains source) :
      Gated host partition
        [.asked (.probe host .folder partition) (.ok true),
          .asked (.list host .routeDomain partition) (.ok domains),
          .asked (.list host .virtualAddress partition) (.ok []),
          .asked (.list host .node partition) (.error source)]
        (.error (.catalog host partition .node source))
  | nodesLeft (domains node nodes) :
      Gated host partition
        [.asked (.probe host .folder partition) (.ok true),
          .asked (.list host .routeDomain partition) (.ok domains),
          .asked (.list host .virtualAddress partition) (.ok []),
          .asked (.list host .node partition) (.ok (node :: nodes))]
        (.ok .notEmpty)
  | cancelled (domains) :
      Gated host partition
        [.asked (.probe host .folder partition) (.ok true),
          .asked (.list host .routeDomain partition) (.ok domains),
          .asked (.list host .virtualAddress partition) (.ok []),
          .asked (.list host .node partition) (.ok []),
          .looked true]
        (.error (.cancelled host partition))

theorem Gated.reads {host partition : String} {trail : Trail Backend}
    {result : Except TenantError Outcome} (gated : Gated host partition trail result) :
    ∀ sight ∈ trail, sight.changes = false := by
  cases gated <;> simp [Sight.changes, Request.changes]

variable {host partition : String} {trail : Trail Backend}

theorem yields_list_bind_iff {α : Type} {kind : Kind} {rest : List Resource → Action α}
    {result : Except TenantError α} :
    Program.Yields (Catalog.list host partition kind >>= rest).run trail result ↔
      (∃ source, trail = [.asked (.list host kind partition) (.error source)] ∧
        result = .error (.catalog host partition kind source)) ∨
      ∃ resources later, trail = .asked (.list host kind partition) (.ok resources) :: later ∧
        Program.Yields (rest resources).run later result := by
  rw [Catalog.list, bind_assoc, yields_ask_bind_iff]
  constructor
  · rintro ⟨answer, later, rfl, taken⟩
    cases answer with
    | error source =>
        obtain ⟨rfl, rfl⟩ := taken
        exact .inl ⟨source, rfl, rfl⟩
    | ok resources => exact .inr ⟨resources, later, rfl, taken⟩
  · rintro (⟨source, rfl, rfl⟩ | ⟨resources, later, rfl, taken⟩)
    · exact ⟨.error source, [], rfl, rfl, rfl⟩
    · exact ⟨.ok resources, later, rfl, taken⟩

theorem yields_checkpoint_bind_iff {α : Type} {rest : Unit → Action α} {trail : Trail Backend}
    {result : Except TenantError α} :
    Program.Yields (checkpoint host partition >>= rest).run trail result ↔
      trail = [.looked true] ∧ result = .error (.cancelled host partition) ∨
        ∃ later, trail = .looked false :: later ∧ Program.Yields (rest ()).run later result := by
  rw [checkpoint, bind_assoc, run_bind, run_shutdownRequested]
  constructor
  · rintro ⟨requested, later, rfl, taken⟩
    cases requested with
    | false => exact .inr ⟨later, rfl, taken⟩
    | true =>
        obtain ⟨rfl, rfl⟩ := taken
        exact .inl ⟨rfl, rfl⟩
  · rintro (⟨rfl, rfl⟩ | ⟨later, rfl, taken⟩)
    · exact ⟨true, [], rfl, rfl, rfl⟩
    · exact ⟨false, later, rfl, taken⟩

theorem yields_dismantle {policy : RetryPolicy} {names : List String}
    {result : Except TenantError Outcome}
    (taken : Program.Yields (dismantle policy host partition names).run trail result) :
    (∃ later, trail = .looked false :: later) ∧ (∀ outcome, result = .ok outcome →
        outcome = .removed) ∨
      trail = [.looked true] ∧ result = .error (.cancelled host partition) := by
  have removes (outcome) (ok : result = .ok outcome) : outcome = .removed := by
    subst ok
    exact (dismantle_succeeds_iff.mp taken).1
  obtain ⟨rfl, rfl⟩ | ⟨later, rfl, -⟩ := yields_checkpoint_bind_iff.mp taken
  · exact .inr ⟨rfl, rfl⟩
  · exact .inl ⟨⟨later, rfl⟩, removes⟩

theorem run_opens {policy : RetryPolicy} {result : Except TenantError Outcome}
    (taken : Program.Yields (run policy host partition).run trail result) :
    (∃ domains later, trail = checks host partition domains ++ later ∧
        Program.Yields (dismantle policy host partition (domains.map (·.name))).run later
          result) ∨
      Gated host partition trail result := by
  rw [run, yields_ask_bind_iff] at taken
  obtain ⟨answer, later, rfl, taken⟩ := taken
  rcases answer with source | _ | _
  case error =>
    obtain ⟨rfl, rfl⟩ := taken
    exact .inr (.probeFails source)
  case ok.false =>
    obtain ⟨rfl, rfl⟩ := yields_note_bind_iff.mp taken
    exact .inr .absent
  case ok.true =>
    simp only [Catalog.routeDomainNames, Catalog.isEmpty, Kind.loadBearing, Catalog.lacks,
      bind_assoc, pure_bind] at taken
    obtain ⟨source, rfl, rfl⟩ | ⟨domains, _, rfl, known⟩ := yields_list_bind_iff.mp taken
    · exact .inr (.domainsFail source)
    obtain ⟨source, rfl, rfl⟩ | ⟨addresses, _, rfl, found⟩ := yields_list_bind_iff.mp known
    · exact .inr (.addressesFail domains source)
    cases addresses with
    | cons address addresses =>
        obtain ⟨rfl, rfl⟩ := yields_note_bind_iff.mp found
        exact .inr (.addressesLeft domains address addresses)
    | nil =>
        simp only [List.isEmpty_nil, ↓reduceIte, bind_assoc] at found
        obtain ⟨source, rfl, rfl⟩ | ⟨nodes, later, rfl, checked⟩ := yields_list_bind_iff.mp found
        · exact .inr (.nodesFail domains source)
        cases nodes with
        | cons node nodes =>
            obtain ⟨rfl, rfl⟩ := yields_note_bind_iff.mp checked
            exact .inr (.nodesLeft domains node nodes)
        | nil => exact .inl ⟨domains, later, rfl, checked⟩

/-- A teardown goes through the gate, and then it removes or fails, or it is stopped by the gate. -/
theorem run_yields {policy : RetryPolicy} {result : Except TenantError Outcome}
    (taken : Program.Yields (run policy host partition).run trail result) :
    (∃ domains later, trail = opening host partition domains ++ later ∧
        ∀ outcome, result = .ok outcome → outcome = .removed) ∨
      Gated host partition trail result := by
  obtain ⟨domains, _, rfl, goes⟩ | gated := run_opens taken
  · obtain ⟨⟨later, rfl⟩, removes⟩ | ⟨rfl, rfl⟩ := yields_dismantle goes
    · exact .inl ⟨domains, later, rfl, removes⟩
    · exact .inr (.cancelled domains)
  · exact .inr gated

theorem list_bind_run_of_no_faults {α : Type} {kind : Kind} {rest : List Resource → Action α}
    (raiseOnCall : Option Nat) (asker : Nat) (surroundings : Surroundings Backend Estate)
    (none : surroundings.state.faults = []) :
    ∃ later : Surroundings Backend Estate, later.state = surroundings.state ∧
      Program.run (Catalog.list host partition kind >>= rest).run (Estate.peer raiseOnCall) asker
          surroundings =
        Program.run (rest ((surroundings.state.fleet.host host).listing kind partition)).run
          (Estate.peer raiseOnCall) asker later := by
  have served := Estate.respond_of_no_faults (.list host kind partition) surroundings.state none
  rw [Catalog.list, bind_assoc, run_bind, run_ask]
  let waited := surroundings.wait (Estate.latency surroundings.state (.list host kind partition))
  refine ⟨(waited.exchange (Estate.peer raiseOnCall) asker (.list host kind partition)).2, ?_, ?_⟩
  · simp [waited, Estate.peer, served, Estate.comply]
  · simp [Program.bind, Program.run, andThen, waited, Estate.peer, served, Estate.comply]

theorem lacks_run_of_no_faults (raiseOnCall : Option Nat) (asker : Nat) (kinds : List Kind)
    (surroundings : Surroundings Backend Estate) (none : surroundings.state.faults = []) :
    let ran := Program.run (Catalog.lacks host partition kinds).run (Estate.peer raiseOnCall) asker
      surroundings
    ran.1 = .ok (kinds.all fun kind =>
        ((surroundings.state.fleet.host host).listing kind partition).isEmpty) ∧
      ran.2.state = surroundings.state := by
  induction kinds generalizing surroundings with
  | nil => exact ⟨rfl, rfl⟩
  | cons kind kinds ih =>
      rw [Catalog.lacks]
      obtain ⟨later, same, ran⟩ := list_bind_run_of_no_faults raiseOnCall asker surroundings none
      rw [ran]
      have rest := ih later (same ▸ none)
      rw [same] at rest
      cases empty : ((surroundings.state.fleet.host host).listing kind partition).isEmpty with
      | true => simpa [empty] using rest
      | false => simpa [empty, run_pure, Program.run] using same

theorem opening_reads (domains : List Resource) :
    ∀ sight ∈ opening host partition domains, sight.changes = false := by
  simp [opening, Sight.changes, Request.changes]

theorem prefix_of_changes {reads later before after : Trail Backend} {sight : Sight Backend}
    (quiet : ∀ read ∈ reads, read.changes = false)
    (same : reads ++ later = before ++ sight :: after) (changes : sight.changes) :
    reads <+: before := by
  obtain ⟨middle, rfl, -⟩ | ⟨middle, rfl, -⟩ := Trail.append_eq_cut.mp same
  · exact List.prefix_append reads middle
  · have read := quiet sight (by simp)
    rw [read] at changes
    cases changes

theorem all_lacking_iff (fleet : Fleet) (kinds : List Kind) :
    (kinds.all fun kind => ((fleet.host host).listing kind partition).isEmpty) =
      decide (∀ object ∈ (fleet.host host).objects,
        object.listedIn = partition → object.resource.kind ∉ kinds) := by
  rw [Bool.eq_iff_iff]
  simp only [List.all_eq_true, Host.listing, List.isEmpty_iff, List.map_eq_nil_iff,
    List.filter_eq_nil_iff, decide_eq_true_eq, Bool.and_eq_true, beq_iff_eq, not_and]
  constructor
  · intro lacking object member listed found
    exact lacking _ found object member rfl listed
  · intro lacking kind found object member same listed
    exact lacking object member listed (same ▸ found)

section

variable {σ : Type} (policy : RetryPolicy) (peer : Peer Backend σ) (asker : Nat)
  (surroundings : Surroundings Backend σ)

theorem gated_of_shut
    (shut : ∀ domains, ¬ opening host partition domains <+:
      (run policy host partition).run.trail peer asker surroundings) :
    Gated host partition ((run policy host partition).run.trail peer asker surroundings)
      ((run policy host partition).run.run peer asker surroundings).1 := by
  obtain ⟨domains, later, same, -⟩ | gated :=
    run_yields (Program.yields_trail (run policy host partition).run peer asker surroundings)
  · exact absurd ⟨later, same.symm⟩ (shut domains)
  · exact gated

theorem opening_prefix_of_changes {before after : Trail Backend} {sight : Sight Backend}
    (cut : (run policy host partition).run.trail peer asker surroundings =
      before ++ sight :: after) (changes : sight.changes) :
    ∃ domains, opening host partition domains <+: before := by
  have taken := Program.yields_trail (run policy host partition).run peer asker surroundings
  rw [cut] at taken
  obtain ⟨domains, later, same, -⟩ | gated := run_yields taken
  · exact ⟨domains, prefix_of_changes (opening_reads domains) same.symm changes⟩
  · have read := gated.reads sight (by simp)
    rw [read] at changes
    cases changes

end

/-- A teardown asks for changes only after reads of its own that opened the gate, in this order;
any other teardown changes nothing and ends as the first read says that stopped it. In a fleet
without faults the check for traffic is exact, and neither the check nor a teardown that the gate
stops changes the fleet. -/
theorem changes_only_past_gate (policy : RetryPolicy) (host partition : String) :
    (∀ (σ : Type) (peer : Peer Backend σ) (asker : Nat) (surroundings : Surroundings Backend σ),
      let trail := (run policy host partition).run.trail peer asker surroundings
      let result := ((run policy host partition).run.run peer asker surroundings).1
      (∀ before sight after, trail = before ++ sight :: after → sight.changes →
        ∃ domains, opening host partition domains <+: before) ∧
      ((∀ domains, ¬ opening host partition domains <+: trail) →
        (∀ sight ∈ trail, sight.changes = false) ∧ Gated host partition trail result)) ∧
    ∀ (fleet : Fleet) (latencies : List (String × Nat)) (raiseOnCall : Option Nat) (asker : Nat)
      (surroundings : Surroundings Backend Estate),
      let peer := Estate.peer raiseOnCall
      let calm := { surroundings with state := ⟨fleet, latencies, []⟩ }
      let check := (Catalog.isEmpty host partition).run.run peer asker calm
      let trail := (run policy host partition).run.trail peer asker calm
      check.1 = .ok (decide (∀ object ∈ (fleet.host host).objects,
        object.listedIn = partition → object.resource.kind ∉ Kind.loadBearing)) ∧
      check.2.state.fleet = fleet ∧
      ((∀ domains, ¬ opening host partition domains <+: trail) →
        ((run policy host partition).run.run peer asker calm).2.state.fleet = fleet) := by
  constructor
  · intro σ peer asker surroundings trail result
    constructor
    · intro before sight after cut changes
      exact opening_prefix_of_changes policy peer asker surroundings cut changes
    · intro shut
      have gated := gated_of_shut policy peer asker surroundings shut
      exact ⟨gated.reads, gated⟩
  · intro fleet latencies raiseOnCall asker surroundings peer calm check trail
    obtain ⟨answered, kept⟩ :=
      lacks_run_of_no_faults raiseOnCall asker Kind.loadBearing calm rfl
    refine ⟨answered.trans (congrArg _ (all_lacking_iff fleet Kind.loadBearing)), ?_, ?_⟩
    · exact congrArg Estate.fleet kept
    · intro shut
      have gated := gated_of_shut policy peer asker calm shut
      exact Estate.run_fleet_of_reads _ raiseOnCall asker calm gated.reads

end Tenancy.Teardown
