import Tenancy.Proofs.Cleanup.Opening
import Tenancy.Proofs.Cleanup.Shares
import Tenancy.Proofs.Estate.Determinacy
import Tenancy.Proofs.Teardown.Heedless

/-!
Each appliance of a cleanup as if it were the only one: as long as shutdown is not requested, its
teardown makes the same calls, comes to the same result and leaves its host in the same state as the
teardown of this appliance alone.
-/

namespace Tenancy

theorem Estate.paced (raiseOnCall : Option Nat) (start : Estate) :
    (Estate.peer raiseOnCall).Paced (Estate.latency start)
      fun estate => estate.latencies = start.latencies := by
  refine ⟨fun {state} request same => ?_, fun {state} request same => same⟩
  cases request <;> simp [Estate.peer, Estate.latency, same]

namespace Teardown

variable {policy : RetryPolicy} {host other partition : String} {trail : Trail Backend}
  {result : Except TenantError Outcome}

theorem host?_of_mem_answers (taken : Program.Yields (run policy host partition).run trail result)
    {reply : Estate.Reply} (member : reply ∈ trail.answers) (placed : reply.1.host?.isSome) :
    reply.1.host? = some host := by
  obtain ⟨before, after, rfl⟩ := List.append_of_mem (Trail.mem_answers_iff.mp member)
  exact (run_asks taken.asks).host?_eq placed

theorem placed_eq_repliesOf (taken : Program.Yields (run policy host partition).run trail result) :
    trail.placed = Estate.repliesOf host trail.answers := by
  refine List.filter_congr fun reply member => ?_
  rw [Bool.eq_iff_iff, decide_eq_true_eq]
  constructor
  · exact host?_of_mem_answers taken member
  · intro own
    rw [own]
    rfl

theorem repliesOf_other (taken : Program.Yields (run policy host partition).run trail result)
    (apart : other ≠ host) : Estate.repliesOf other trail.answers = [] := by
  refine List.filter_eq_nil_iff.mpr fun reply member own => ?_
  rw [decide_eq_true_eq] at own
  have placed := host?_of_mem_answers taken member (by rw [own]; rfl)
  rw [own] at placed
  exact apart (Option.some.inj placed)

end Teardown

namespace Cleanup

/-- A trail that shows all that a record holds of a host is told by the estate of the start, and the
host is in the state in which this trail leaves it. -/
theorem toldBy_of_since {raiseOnCall : Option Nat} {start : Estate}
    {surroundings : Surroundings Backend Estate} {host : String} {trail : Trail Backend}
    (since : surroundings.Since (Estate.peer raiseOnCall) start)
    (apart : ∀ fault ∈ start.faults, fault.IsApart) (calm : trail.Tells false)
    (own : trail.placed =
      Estate.repliesOf host (surroundings.exchanges.map Exchange.reply).reverse) :
    trail.ToldBy start ∧
      surroundings.state.fleet.host host = (start.after trail.placed).fleet.host host := by
  obtain ⟨told, came⟩ := Estate.tells_of_since since
  obtain ⟨here, agrees⟩ := Estate.tells_repliesOf (Estate.agrees_refl apart) told
  rw [came, own]
  exact ⟨⟨calm, own ▸ here⟩, agrees.same⟩

namespace Pass

def solo (pass : Pass) (host : String) (fleet : Fleet) :
    Except TenantError Outcome × Surroundings Backend Estate :=
  Program.run (Teardown.run pass.retry host pass.partition).run (Estate.peer none) 0
    (Surroundings.start (pass.estate fleet))

variable {pass : Pass} {fleet : Fleet} {host : String} {trail : Trail Backend}
  {result : Except TenantError Outcome} {surroundings : Surroundings Backend Estate}

def callsOf (asker : Nat) (exchanges : List (Exchange Backend)) : List (Nat × Estate.Reply) :=
  (Exchange.callsOf asker exchanges).map fun call => (call.1, Estate.Reply.mute call.2)

def heard (exchanges : List (Exchange Backend)) : List Estate.Reply :=
  (exchanges.map Exchange.reply).reverse.map Estate.Reply.mute

theorem host?_of_heard {reply : Estate.Reply}
    (member : reply ∈ heard (pass.solo host fleet).2.exchanges) (placed : reply.1.host?.isSome) :
    reply.1.host? = some host := by
  let start : Surroundings Backend Estate := .start (pass.estate fleet)
  have taken := Program.yields_trail (Teardown.run pass.retry host pass.partition).run
    (Estate.peer none) 0 start
  have answers := Program.trail_answers (Teardown.run pass.retry host pass.partition).run
    (Estate.peer none) 0 start rfl
  obtain ⟨own, inside, rfl⟩ := List.mem_map.mp member
  rw [solo, ← answers] at inside
  have here : own.1.host? = some host := Teardown.host?_of_mem_answers taken inside placed
  exact here

theorem solo_trail (pass : Pass) (host : String) (fleet : Fleet)
    (apart : ∀ fault ∈ pass.faults, fault.IsApart) :
    ∃ trail : Trail Backend,
      Program.Yields (Teardown.run pass.retry host pass.partition).run trail
        (pass.solo host fleet).1 ∧
      trail.ToldBy (pass.estate fleet) ∧
      trail.answers = ((pass.solo host fleet).2.exchanges.map Exchange.reply).reverse ∧
      Exchange.callsOf 0 (pass.solo host fleet).2.exchanges =
        Trail.calls (I := Backend) (pass.estate fleet).latency 0 trail ∧
      (pass.solo host fleet).2.state.fleet.host host =
        ((pass.estate fleet).after trail.placed).fleet.host host := by
  let start : Surroundings Backend Estate := .start (pass.estate fleet)
  let program : Program Backend _ := (Teardown.run pass.retry host pass.partition).run
  let trail : Trail Backend := program.trail (Estate.peer none) 0 start
  have calm : (program.run (Estate.peer none) 0 start).2.requested = false := by
    have absent : (program.run (Estate.peer none) 0 start).2.signal = none :=
      Program.signal_run_of_none rfl
    rw [Surroundings.requested, absent]
    rfl
  have fresh : start.Since (Estate.peer none) (pass.estate fleet) := ⟨rfl, trivial⟩
  have taken : program.Yields trail (pass.solo host fleet).1 := Program.yields_trail _ _ _ _
  have answers : trail.answers = ((pass.solo host fleet).2.exchanges.map Exchange.reply).reverse :=
    Program.trail_answers _ _ _ _ rfl
  have own := answers ▸ Teardown.placed_eq_repliesOf taken
  obtain ⟨told, state⟩ :=
    toldBy_of_since (fresh.run program 0) apart (Program.trail_tells calm) own
  have calls := Program.run_calls (Estate.paced none (pass.estate fleet)) rfl calm
  exact ⟨trail, taken, told, answers, calls, state⟩

/-- A teardown that is told what it hears by the estate of the start goes the way of one alone. -/
theorem same_as_solo (apart : ∀ fault ∈ pass.faults, fault.IsApart)
    (taken : Program.Yields (Teardown.run pass.retry host pass.partition).run trail result)
    (told : trail.ToldBy (pass.estate fleet))
    (state : surroundings.state.fleet.host host =
      ((pass.estate fleet).after trail.placed).fleet.host host) :
    result = (pass.solo host fleet).1 ∧
      surroundings.state.fleet.host host = (pass.solo host fleet).2.state.fleet.host host ∧
      trail.answers.map Estate.Reply.mute = heard (pass.solo host fleet).2.exchanges ∧
      ∀ start, (Trail.calls (I := Backend) (pass.estate fleet).latency start trail).map
          (fun call => (call.1, Estate.Reply.mute call.2)) =
        (callsOf 0 (pass.solo host fleet).2.exchanges).map
          fun call => (start + call.1, call.2) := by
  obtain ⟨alone, ends, toldAlone, answers, calls, stateAlone⟩ := pass.solo_trail host fleet apart
  obtain ⟨alike, same⟩ := Program.determined Teardown.run_heedless taken ends told toldAlone
  refine ⟨same, ?_, ?_, fun start => ?_⟩
  · rw [state, stateAlone, alike.placed]
  · rw [alike.answers, answers, heard]
  · have shifted := @Trail.calls_add Backend (pass.estate fleet).latency start 0 alone
    rw [alike.calls, callsOf, calls, Nat.add_zero] at *
    rw [shifted, List.map_map, List.map_map]
    rfl

end Pass

end Cleanup

end Tenancy
