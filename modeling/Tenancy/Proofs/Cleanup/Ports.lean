import Tenancy.Proofs.Cleanup.Interchange
import Tenancy.Proofs.Cleanup.Shutdown
import Tenancy.Proofs.Teardown.Ports

/-!
The keeper of ports is not heeded. Cleanups one after the other, beside one clock and one signal, go
the same way whatever the keeper answers: the same calls at the same times, the same results, the
same events above those for debugging, and the same fleet in the end. Ports are offered to the
keeper all the same, each one once and in time.
-/

namespace Tenancy

structure Keeper (κ : Type) where
  release : (port : String) → Estate → κ → Except CallbackError Unit × κ

namespace Keeper

variable {κ : Type} (keeper : Keeper κ)

def answer (estate : Estate) (kept : κ) : (request : Request) → request.Answer
  | .releasePort port => (keeper.release port estate kept).1
  | request => (estate.respond request).1

def next (estate : Estate) (kept : κ) : Request → κ
  | .releasePort port => (keeper.release port estate kept).2
  | _ => kept

def peer (raiseOnCall : Option Nat) : Peer Backend (Estate × κ) where
  latency state := state.1.latency
  raises earlier _ _ := raiseOnCall = some (earlier + 1)
  respond request state :=
    (keeper.answer state.1 state.2 request,
      ((state.1.respond request).2, keeper.next state.1 state.2 request))
  notice := []

variable {keeper}

theorem answer_of_other {estate : Estate} {kept : κ} {request : Request}
    (other : ∀ port, request ≠ .releasePort port) :
    keeper.answer estate kept request = (estate.respond request).1 := by
  cases request with
  | releasePort port => exact absurd rfl (other port)
  | probe | create | list | delete | releaseTag => rfl

theorem peer_alike {κ' : Type} {other : Keeper κ'} (raiseOnCall : Option Nat) :
    Peer.Alike Tolerance.strict.likeness (fun here there => here.1 = there.1)
      (keeper.peer raiseOnCall) (other.peer raiseOnCall) := by
  refine ⟨rfl, ?_, fun _ _ _ => rfl, ?_, ?_⟩
  · rintro ⟨estate, kept⟩ ⟨_, kept'⟩ rfl request
    rfl
  · rintro ⟨estate, kept⟩ ⟨_, kept'⟩ rfl request
    by_cases port : ∃ port, request = .releasePort port
    · obtain ⟨port, rfl⟩ := port
      trivial
    · have same : keeper.answer estate kept request = other.answer estate kept' request := by
        rw [answer_of_other (not_exists.mp port), answer_of_other (not_exists.mp port)]
      exact Tolerance.strict_alike same
  · rintro ⟨estate, kept⟩ ⟨_, kept'⟩ rfl request
    rfl

end Keeper

def Surroundings.beside {κ : Type} (surroundings : Surroundings Backend Estate) (kept : κ) :
    Surroundings Backend (Estate × κ) :=
  ⟨(surroundings.state, kept), surroundings.now, surroundings.signal, surroundings.moments,
    surroundings.exchanges, surroundings.events⟩

namespace Cleanup

section

variable {σ : Type} (naming : Naming) (retry : RetryPolicy) (peer : Peer Backend σ)

def inSuccession : List (Service × Policy) → Surroundings Backend σ →
    List (Except TenantError Report) × Surroundings Backend σ
  | [], surroundings => ([], surroundings)
  | (service, policy) :: later, surroundings =>
      let (result, after) := (ofService naming retry service policy).run peer surroundings
      let (results, last) := inSuccession later after
      (result :: results, last)

def succession : List (Service × Policy) → Surroundings Backend σ →
    List ((Service × Policy) × Surroundings Backend σ)
  | [], _ => []
  | (service, policy) :: later, surroundings =>
      ((service, policy), surroundings) ::
        succession later ((ofService naming retry service policy).run peer surroundings).2

end

structure SameButPorts {κ κ' : Type}
    (run : List (Except TenantError Report) × Surroundings Backend (Estate × κ))
    (other : List (Except TenantError Report) × Surroundings Backend (Estate × κ')) : Prop where
  results : run.1 = other.1
  calls : run.2.exchanges.map Exchange.question = other.2.exchanges.map Exchange.question
  now : run.2.now = other.2.now
  signal : run.2.signal = other.2.signal
  estate : run.2.state.1 = other.2.state.1
  events : run.2.events.filter (·.level.rank < Level.debug.rank) =
    other.2.events.filter (·.level.rank < Level.debug.rank)

def OffersPorts (retry : RetryPolicy) (partition : String) (hosts : List String) (policy : Policy)
    (result : Except TenantError Report) (calls : List (Exchange Backend)) : Prop :=
  ∃ shares, SharedOut hosts policy result [] calls shares ∧
    ∀ share ∈ shares, share.Taken retry partition ∧
      Teardown.OffersPorts share.host partition (share.before ++ share.after)

theorem inSuccession_alike {σ τ : Type} {Keeps : σ → τ → Prop} {naming : Naming}
    {retry : RetryPolicy} {peer : Peer Backend σ} {other : Peer Backend τ}
    (peers : Peer.Alike Tolerance.strict.likeness Keeps peer other)
    (steps : List (Service × Policy)) {surroundings : Surroundings Backend σ}
    {surroundings' : Surroundings Backend τ}
    (alike : Surroundings.Alike Tolerance.strict.likeness Keeps surroundings surroundings') :
    (inSuccession naming retry peer steps surroundings).1 =
        (inSuccession naming retry other steps surroundings').1 ∧
      Surroundings.Alike Tolerance.strict.likeness Keeps
        (inSuccession naming retry peer steps surroundings).2
        (inSuccession naming retry other steps surroundings').2 := by
  induction steps generalizing surroundings surroundings' with
  | nil => exact ⟨rfl, alike⟩
  | cons step steps ih =>
      obtain ⟨service, policy⟩ := step
      obtain ⟨ends, after⟩ :=
        (undertaking_alike retry (naming.folderName service.tenant) service.hosts policy).run
          peers alike
      obtain ⟨results, last⟩ := ih after
      exact ⟨congrArg₂ List.cons ends.eq results, last⟩

theorem offers_ports {σ : Type} (retry : RetryPolicy) (partition : String) (hosts : List String)
    (policy : Policy) (peer : Peer Backend σ) (surroundings : Surroundings Backend σ) :
    let final := (undertaking retry partition hosts policy).run peer surroundings
    ∃ calls, final.2.exchanges = calls ++ surroundings.exchanges ∧
      OffersPorts retry partition hosts policy final.1 calls := by
  intro final
  obtain ⟨earlier, calls, shares, cut⟩ := cut (@through_start retry partition hosts policy σ peer
    surroundings)
  obtain rfl := List.self_eq_append_left.mp cut.grown
  refine ⟨calls, cut.further, shares, cut.shared, fun share member => ?_⟩
  have taken := cut.taken share member
  exact ⟨taken, Teardown.run_offers taken⟩

/-- Whatever the keepers of ports answer, cleanups one after the other go the same way, and offer
each port once and before they delete anything. -/
theorem port_keeper_unheeded {κ κ' : Type} (naming : Naming) (retry : RetryPolicy)
    (steps : List (Service × Policy)) (raiseOnCall : Option Nat) (keeper : Keeper κ)
    (other : Keeper κ') (kept : κ) (kept' : κ') (surroundings : Surroundings Backend Estate) :
    SameButPorts
        (inSuccession naming retry (keeper.peer raiseOnCall) steps (surroundings.beside kept))
        (inSuccession naming retry (other.peer raiseOnCall) steps (surroundings.beside kept')) ∧
      ∀ service policy start, ((service, policy), start) ∈
          succession naming retry (keeper.peer raiseOnCall) steps (surroundings.beside kept) →
        let final := (ofService naming retry service policy).run (keeper.peer raiseOnCall) start
        ∃ calls, final.2.exchanges = calls ++ start.exchanges ∧
          OffersPorts retry (naming.folderName service.tenant) service.hosts policy final.1
            calls := by
  have start : Surroundings.Alike Tolerance.strict.likeness (fun here there => here.1 = there.1)
      (surroundings.beside kept) (surroundings.beside kept') := by
    refine ⟨rfl, rfl, rfl, rfl, List.forall₂_same.mpr fun exchange _ => ?_, rfl⟩
    exact .intro exchange.time exchange.asker exchange.query (Tolerance.strict_alike rfl)
  obtain ⟨results, alike⟩ := @inSuccession_alike _ _ _ naming retry _ _
    (Keeper.peer_alike raiseOnCall) steps _ _ start
  refine ⟨⟨results, alike.calls, alike.now, alike.signal, alike.keeps, alike.heard⟩, ?_⟩
  intro service policy surroundings _
  exact offers_ports retry _ service.hosts policy (keeper.peer raiseOnCall) surroundings

def portedEstate : Estate where
  fleet := ⟨[("h1", ⟨["Project_t"], [⟨⟨.snatTranslation, "n", "Project_t", none⟩, "Project_t"⟩,
    ⟨⟨.selfIp, "s", "Project_t", none⟩, "Project_t"⟩]⟩)]⟩
  latencies := [("h1", 20)]
  faults := []

def willingKeeper : Keeper Unit where
  release _ _ kept := (.ok (), kept)

def grudgingKeeper : Keeper Nat where
  release _ _ kept := (.error ⟨"down"⟩, kept + 1)

theorem port_keeper_unheeded_grudging :
    let service : Service := ⟨"t", none, [⟨"h1"⟩]⟩
    let steps := [(service, Policy.abortOnFirstFailure)]
    let here := (Surroundings.start portedEstate).beside ()
    let there := (Surroundings.start portedEstate).beside 0
    (inSuccession .default .default (grudgingKeeper.peer none) steps there).2.state.2 = 2 ∧
      SameButPorts (inSuccession .default .default (willingKeeper.peer none) steps here)
        (inSuccession .default .default (grudgingKeeper.peer none) steps there) ∧
      ((service, .abortOnFirstFailure), here) ∈
        succession .default .default (willingKeeper.peer none) steps here ∧
      ∃ calls,
        ((ofService .default .default service .abortOnFirstFailure).run (willingKeeper.peer none)
          here).2.exchanges = calls ∧
        OffersPorts .default "Project_t" ["h1"] .abortOnFirstFailure
          ((ofService .default .default service .abortOnFirstFailure).run (willingKeeper.peer none)
            here).1 calls := by
  intro service steps here there
  obtain ⟨same, offers⟩ := port_keeper_unheeded .default .default steps none willingKeeper
    grudgingKeeper () 0 (Surroundings.start portedEstate)
  refine ⟨by decide +kernel, same, List.mem_cons_self, ?_⟩
  obtain ⟨calls, grown, offered⟩ := offers service .abortOnFirstFailure here List.mem_cons_self
  exact ⟨calls, grown.trans (List.append_nil calls), offered⟩

end Cleanup

end Tenancy
