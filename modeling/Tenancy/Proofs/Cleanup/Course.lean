import Mathlib.Algebra.BigOperators.Group.List.Basic
import Mathlib.Algebra.Ring.Nat
import Tenancy.Proofs.Cleanup.Policies

/-!
The course of a cleanup on each appliance, whatever faults there are. What is recorded of an
appliance is what its teardown asks of it, and the times in the record tell how long that takes.
-/

namespace Tenancy

open Estate (Reply)

def Exchange.callsAt (host : String) (exchanges : List (Exchange Backend)) : List (Nat × Reply) :=
  ((exchanges.filter fun exchange => exchange.query.host? = some host).map call).reverse

def Exchange.span (host : String) (exchanges : List (Exchange Backend)) : Nat :=
  let times := (callsAt host exchanges).map Prod.fst
  times.getLast?.getD 0 - times.head?.getD 0

def Trail.callsAt (host : String) (cost : Request → Nat) (start : Nat) (trail : Trail Backend) :
    List (Nat × Reply) :=
  (Trail.calls (I := Backend) cost start trail).filter fun call => call.2.1.host? = some host

variable {host : String} {exchanges : List (Exchange Backend)} {cost : Request → Nat} {start : Nat}
  {first second trail : Trail Backend} {request : Request} {answer : request.Answer}

theorem Exchange.callsAt_eq :
    callsAt host exchanges =
      ((exchanges.map call).reverse.filter fun call => call.2.1.host? = some host) := by
  rw [callsAt, List.filter_reverse, List.filter_map]
  rfl

theorem Exchange.callsAt_replies :
    (callsAt host exchanges).map Prod.snd =
      Estate.repliesOf host (exchanges.map reply).reverse := by
  rw [callsAt, Estate.repliesOf, List.map_reverse, List.map_map, List.filter_reverse,
    List.filter_map]
  rfl

namespace Trail

theorem callsAt_replies :
    (trail.callsAt host cost start).map Prod.snd = Estate.repliesOf host trail.answers := by
  have replies : (Trail.calls (I := Backend) cost start trail).map Prod.snd = trail.answers :=
    calls_replies start trail
  rw [← replies, Estate.repliesOf, List.filter_map, callsAt]
  rfl

theorem callsAt_append :
    callsAt host cost start (first ++ second) =
      first.callsAt host cost start ++ second.callsAt host cost (start + first.lasts cost) := by
  rw [callsAt, calls_append, List.filter_append]
  rfl

theorem callsAt_asked (placed : request.host? = some host) :
    callsAt host cost start (.asked request answer :: trail) =
      (start + cost request, ⟨request, answer⟩) :: trail.callsAt host cost (start + cost request) :=
  List.filter_cons_of_pos (by simpa using placed)

theorem lasts_flatMap {τ : Type} (entries : List τ) (trails : τ → Trail Backend) :
    lasts cost (entries.flatMap trails) = (entries.map fun entry => (trails entry).lasts cost).sum := by
  induction entries with
  | nil => rfl
  | cons entry entries ih =>
      rw [List.flatMap_cons, lasts_append, List.map_cons, List.sum_cons, ih]

structure Frames (host : String) (opener : Request) (trail : Trail Backend) : Prop where
  placed : opener.host? = some host
  opens : ∃ answer later, trail = .asked opener answer :: later
  closes : ∃ earlier request answer, trail = earlier ++ [.asked request answer] ∧
    request.host? = some host

theorem Frames.span (frames : trail.Frames host request)
    (calls : Exchange.callsAt host exchanges = trail.callsAt host cost start) :
    Exchange.span host exchanges + cost request = trail.lasts cost := by
  obtain ⟨answer, later, opens⟩ := frames.opens
  obtain ⟨earlier, last, given, closes, placed⟩ := frames.closes
  have head : ((trail.callsAt host cost start).map Prod.fst).head? = some (start + cost request) := by
    rw [opens, callsAt_asked frames.placed]
    rfl
  have final : ((trail.callsAt host cost start).map Prod.fst).getLast? =
      some (start + trail.lasts cost) := by
    rw [closes, callsAt_append, callsAt_asked placed, lasts_append, List.map_append]
    exact List.getLast?_concat.trans (congrArg some (Nat.add_assoc ..))
  have low : cost request ≤ trail.lasts cost := by
    rw [opens]
    exact Nat.le_add_right _ _
  rw [Exchange.span, calls, head, final, Option.getD_some, Option.getD_some]
  omega

end Trail

namespace Teardown

variable {policy : RetryPolicy} {partition : String} {outcome : Outcome}
  {result : Except TenantError Outcome}

theorem Gated.closes (gated : Gated host partition trail result) (ok : result.isOk) :
    ∃ earlier request answer, trail = earlier ++ [.asked request answer] ∧
      request.host? = some host := by
  cases gated with
  | absent => exact ⟨[], .probe host .folder partition, _, rfl, rfl⟩
  | addressesLeft => exact ⟨[_, _], .list host .virtualAddress partition, _, rfl, rfl⟩
  | nodesLeft => exact ⟨[_, _, _], .list host .node partition, _, rfl, rfl⟩
  | probeFails | domainsFail | addressesFail | nodesFail | cancelled => cases ok

theorem frames (succeeds : (run policy host partition).Succeeds trail outcome) :
    trail.Frames host (.probe host .folder partition) := by
  refine ⟨rfl, ?_, ?_⟩
  · rw [run] at succeeds
    obtain ⟨answer, later, rfl, -⟩ := Action.yields_ask_bind_iff.mp succeeds
    exact ⟨answer, later, rfl⟩
  · obtain ⟨domains, later, -, removes⟩ | gated := run_yields succeeds
    · obtain rfl := removes outcome rfl
      cases run_succeeds_removed_iff.mp succeeds with
      | @mk domains first second third answer =>
          refine ⟨opening host partition domains ++ (first ++ .looked false :: (second ++
            .looked false :: (third ++ [.looked false]))), .delete host (.folder partition),
            answer, ?_, rfl⟩
          simp
    · exact gated.closes rfl

end Teardown

namespace Cleanup.Pass

variable {pass : Pass} {fleet : Fleet} {result : Except TenantError Outcome} {place : Nat}
  {maxParallel : Nat}

structure Leads (pass : Pass) (fleet : Fleet) (host : String) (trail : Trail Backend)
    (result : Except TenantError Outcome) : Prop where
  taken : Program.Yields (Teardown.run pass.retry host pass.partition).run trail result
  calm : trail.Tells false
  calls : ∃ start, Exchange.callsAt host (pass.exchanges fleet) =
    trail.callsAt host (pass.estate fleet).latency start

theorem Leads.placed (leads : pass.Leads fleet host trail result) :
    trail.placed = Estate.repliesOf host ((pass.exchanges fleet).map Exchange.reply).reverse := by
  obtain ⟨start, calls⟩ := leads.calls
  rw [Teardown.placed_eq_repliesOf leads.taken, ← Exchange.callsAt_replies, calls,
    Trail.callsAt_replies]

theorem callsAt_of_callsOf {asker : Nat}
    (own : ∀ exchange ∈ exchanges, exchange.query.host? = some host → exchange.asker = asker) :
    Exchange.callsAt host exchanges =
      (Exchange.callsOf asker exchanges).filter fun call => call.2.1.host? = some host := by
  simp only [Exchange.callsAt, Exchange.callsOf, List.filter_reverse, List.filter_map,
    List.filter_filter]
  refine congrArg List.reverse (congrArg (List.map Exchange.call) (List.filter_congr ?_))
  intro exchange member
  refine (Bool.and_eq_left_iff_imp.mpr fun here => ?_).symm
  exact decide_eq_true (own exchange member (of_decide_eq_true here))

theorem together_leads (policy : pass.policy = .bestEffort maxParallel)
    (distinct : pass.service.hosts.Nodup) (calm : (pass.run fleet).2.requested = false)
    (placed : pass.service.hosts[place]? = some host) :
    ∃ trail result, (pass.batch fleet maxParallel).results[place]? = some result ∧
      pass.Leads fleet host trail result := by
  obtain ⟨events, ran⟩ := reports_of_together fleet policy
  have quiet : (pass.batch fleet maxParallel).surroundings.requested = false := by
    rw [ran] at calm
    exact calm
  have known : (pass.service.hosts.map fun host =>
      (Teardown.run pass.retry host pass.partition).run)[place]? =
        some (Teardown.run pass.retry host pass.partition).run := by
    rw [List.getElem?_map, placed]
    rfl
  obtain ⟨result, start, trail, found, taken, tells, calls⟩ :=
    Batch.run_timed (Estate.paced pass.raiseOnCall (pass.estate fleet))
      (Nat.lt_of_lt_of_le Nat.zero_lt_one (Nat.le_max_right maxParallel 1)) rfl rfl quiet known
  have recorded : (pass.batch fleet maxParallel).surroundings.exchanges = pass.exchanges fleet := by
    rw [exchanges, ran]
  change Exchange.callsOf place (pass.batch fleet maxParallel).surroundings.exchanges = _ at calls
  rw [recorded] at calls
  refine ⟨trail, result, found, taken, tells, start, ?_⟩
  rw [callsAt_of_callsOf fun exchange => asker_of_host policy distinct placed, calls]
  rfl

theorem in_turn_trail (policy : pass.policy = .abortOnFirstFailure)
    (calm : (pass.run fleet).2.requested = false) :
    ∃ (trail : Trail Backend) (outcomes : Except TenantError (List (String × Outcome))),
      Program.Yields (inTurn pass.retry pass.partition pass.service.hosts).run trail outcomes ∧
      (pass.run fleet).1 = Report.mk <$> outcomes ∧ trail.Tells false ∧
      ((pass.exchanges fleet).map Exchange.call).reverse =
        Trail.calls (I := Backend) (pass.estate fleet).latency pass.now trail ∧
      (pass.run fleet).2.now = pass.now + trail.lasts (pass.estate fleet).latency := by
  let program : Program Backend (Except TenantError Report) :=
    (Report.mk <$> inTurn pass.retry pass.partition pass.service.hosts).run
  let peer := Estate.peer pass.raiseOnCall
  let trail : Trail Backend := program.trail peer 0 (pass.surroundings fleet)
  have ran : pass.run fleet = program.run peer 0 (pass.surroundings fleet) := run_of_alone policy
  rw [ran] at calm
  obtain ⟨outcomes, taken, same⟩ := Action.yields_map_iff.mp
    (Program.yields_trail program peer 0 (pass.surroundings fleet))
  obtain ⟨now, calls⟩ :=
    Program.run_paced (Estate.paced pass.raiseOnCall (pass.estate fleet)) rfl calm
  have own : ∀ exchange ∈ pass.exchanges fleet, exchange.asker = 0 := by
    rw [exchanges, ran]
    exact Program.run_askers (List.forall_mem_nil _)
  have all : (pass.exchanges fleet).filter (·.asker = 0) = pass.exchanges fleet :=
    List.filter_eq_self.mpr fun exchange member => decide_eq_true (own exchange member)
  rw [← ran] at now calls same
  refine ⟨trail, outcomes, taken, same, Program.trail_tells calm, ?_, now⟩
  rw [← all]
  exact calls

end Cleanup.Pass

namespace Cleanup

variable {retry : RetryPolicy} {partition : String} {shares : List Share}

theorem callsAt_other (taken : Program.Yields (Teardown.run retry host partition).run trail result)
    {other : String} (apart : other ≠ host) : trail.callsAt other cost start = [] := by
  have none : (trail.callsAt other cost start).map Prod.snd = [] := by
    rw [Trail.callsAt_replies, Teardown.repliesOf_other taken apart]
  exact List.map_eq_nil_iff.mp none

theorem callsAt_shares
    (taken : ∀ share ∈ shares,
      Program.Yields (Teardown.run retry share.host partition).run share.before share.result)
    (distinct : (shares.map Share.host).Nodup) {share : Share} (member : share ∈ shares) :
    ∃ own, Trail.callsAt share.host cost start (shares.flatMap Share.before) =
      share.before.callsAt share.host cost own := by
  have others (before : List Share) (start : Nat) (within : before ⊆ shares)
      (apart : share.host ∉ before.map Share.host) :
      Trail.callsAt share.host cost start (before.flatMap Share.before) = [] := by
    induction before generalizing start with
    | nil => rfl
    | cons other before ih =>
        rw [List.map_cons, List.mem_cons, not_or] at apart
        rw [List.cons_subset] at within
        rw [List.flatMap_cons, Trail.callsAt_append, callsAt_other (taken other within.1) apart.1,
          ih _ within.2 apart.2]
        rfl
  obtain ⟨before, after, rfl⟩ := List.append_of_mem member
  rw [List.map_append, List.map_cons, List.nodup_middle, List.nodup_cons, List.mem_append,
    not_or] at distinct
  rw [List.flatMap_append, List.flatMap_cons, Trail.callsAt_append, Trail.callsAt_append,
    others before start (List.subset_append_left _ _) distinct.1.1,
    others after _ (fun _ found => by simp [found]) distinct.1.2]
  exact ⟨_, List.append_nil _⟩

theorem Pass.in_turn_leads {pass : Pass} {fleet : Fleet}
    (policy : pass.policy = .abortOnFirstFailure)
    (distinct : pass.service.hosts.Nodup) (calm : (pass.run fleet).2.requested = false) :
    ∃ shares : List Share,
      Reported pass.service.hosts shares (pass.run fleet).1 .abortOnFirstFailure ∧
      (∀ share ∈ shares, pass.Leads fleet share.host share.before share.result) ∧
      (pass.run fleet).2.now = pass.now +
        Trail.lasts (pass.estate fleet).latency (shares.flatMap Share.before) := by
  obtain ⟨trail, outcomes, whole, same, tells, calls, now⟩ := in_turn_trail policy calm
  rw [← List.append_nil trail] at whole
  obtain ⟨shares, rfl, none, -, valid, reported⟩ := inTurn_shares whole
  have taken : ∀ share ∈ shares,
      Program.Yields (Teardown.run pass.retry share.host pass.partition).run share.before
        share.result := by
    intro share member
    have part := valid share member
    rw [Share.Taken, List.flatMap_eq_nil_iff.mp none.symm share member, List.append_nil] at part
    exact part
  refine ⟨shares, same ▸ reported, fun share member => ⟨taken share member, ?_, ?_⟩, now⟩
  · exact fun sight inside => tells sight (List.mem_flatMap.mpr ⟨share, member, inside⟩)
  · obtain ⟨own, found⟩ := callsAt_shares taken (distinct.sublist reported.1.sublist) member
    refine ⟨own, ?_⟩
    rw [Exchange.callsAt_eq, calls]
    exact found

namespace Pass

variable {pass : Pass} {fleet : Fleet}

theorem exists_leads (distinct : pass.service.hosts.Nodup)
    (calm : (pass.run fleet).2.requested = false) (ok : (pass.run fleet).1.isOk)
    (inside : host ∈ pass.service.hosts) :
    ∃ trail outcome, pass.Leads fleet host trail (.ok outcome) := by
  cases policy : pass.policy with
  | abortOnFirstFailure =>
      obtain ⟨shares, reported, leads, -⟩ := in_turn_leads policy distinct calm
      rw [← reported.2.2.2 ok] at inside
      obtain ⟨share, member, rfl⟩ := List.mem_map.mp inside
      have lead := leads share member
      have fine := reported.fine ok share member
      cases result : share.result with
      | error failure =>
          rw [result] at fine
          cases fine
      | ok outcome => exact ⟨share.before, outcome, result ▸ lead⟩
  | bestEffort maxParallel =>
      obtain ⟨place, placed⟩ := List.mem_iff_getElem?.mp inside
      obtain ⟨trail, result, found, leads⟩ := together_leads policy distinct calm placed
      obtain ⟨events, ran⟩ := reports_of_together fleet policy
      rw [ran, verdict_isOk_iff, failuresOf_eq_nil_iff] at ok
      have entry : (host, result) ∈ pass.service.hosts.zip (pass.batch fleet maxParallel).results :=
        List.mem_of_getElem? (List.getElem?_zip_eq_some.mpr ⟨placed, found⟩)
      have fine := ok _ entry
      cases result with
      | error failure => cases fine
      | ok outcome => exact ⟨trail, outcome, leads⟩

def latencyOf (pass : Pass) (host : String) : Nat := (pass.latencies.lookup host).getD 0

theorem Leads.span {result : Except TenantError Outcome}
    (leads : pass.Leads fleet host trail result) (ok : result.isOk) :
    Exchange.span host (pass.exchanges fleet) + pass.latencyOf host =
      trail.lasts (pass.estate fleet).latency := by
  obtain ⟨start, calls⟩ := leads.calls
  cases result with
  | error failure => cases ok
  | ok outcome => exact (Teardown.frames leads.taken).span calls

theorem now_of_in_turn (policy : pass.policy = .abortOnFirstFailure)
    (distinct : pass.service.hosts.Nodup) (calm : (pass.run fleet).2.requested = false)
    (ok : (pass.run fleet).1.isOk) :
    (pass.run fleet).2.now = pass.now + (pass.service.hosts.map fun host =>
      Exchange.span host (pass.exchanges fleet) + pass.latencyOf host).sum := by
  obtain ⟨shares, reported, leads, now⟩ := in_turn_leads policy distinct calm
  rw [now, Trail.lasts_flatMap, ← reported.2.2.2 ok, List.map_map]
  refine congrArg (pass.now + List.sum ·) (List.map_congr_left fun share member => ?_)
  exact ((leads share member).span (reported.fine ok share member)).symm

end Pass

end Cleanup

end Tenancy
