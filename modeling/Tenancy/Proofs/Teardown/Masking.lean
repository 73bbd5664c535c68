import Mathlib.Data.List.Destutter
import Mathlib.Tactic.Ring
import Tenancy.Proofs.Estate.Determinacy
import Tenancy.Proofs.Estate.Expiry
import Tenancy.Proofs.Teardown.Halting
import Tenancy.Proofs.Teardown.Parts

/-!
How retries mask expired sessions. Whatever a teardown sees while sessions expire, as long as no
deletion runs out of attempts, it comes to the same by a trail on which none expires: there each
object is deleted at the first attempt, and only the time of the others is missing.
-/

namespace Tenancy

namespace Request

def repeats : Request → Request → Bool
  | .delete host resource, .delete other object => host = other && resource = object
  | _, _ => false

def collapse (requests : List Request) : List Request :=
  requests.destutter fun first second => ¬ first.repeats second

inductive Stutters : List Request → List Request → Prop
  | nil : Stutters [] []
  | cons {first second} (request : Request) (rest : Stutters first second) :
      Stutters (request :: first) (request :: second)
  | again {first second host resource} (rest : Stutters (.delete host resource :: first) second) :
      Stutters (.delete host resource :: .delete host resource :: first) second

variable {first second more others : List Request}

theorem repeats_delete (host : String) (resource : Resource) :
    repeats (.delete host resource) (.delete host resource) := by
  simp [repeats]

theorem Stutters.refl (requests : List Request) : Stutters requests requests := by
  induction requests with
  | nil => exact .nil
  | cons request requests ih => exact .cons request ih

theorem Stutters.append (stutters : Stutters first second) (rest : Stutters more others) :
    Stutters (first ++ more) (second ++ others) := by
  induction stutters with
  | nil => exact rest
  | cons request _ ih => exact .cons request ih
  | again _ ih => exact .again ih

theorem Stutters.filter (stutters : Stutters first second) (own : Request → Bool) :
    Stutters (first.filter own) (second.filter own) := by
  induction stutters with
  | nil => exact .nil
  | cons request _ ih =>
      rw [List.filter_cons, List.filter_cons]
      split
      · exact .cons request ih
      · exact ih
  | @again first second host resource _ ih =>
      rw [List.filter_cons] at ih ⊢
      split at ih
      next kept =>
        rw [if_pos kept, List.filter_cons_of_pos kept]
        exact .again ih
      next dropped =>
        rw [if_neg dropped, List.filter_cons_of_neg dropped]
        exact ih

theorem stutters_replicate (host : String) (resource : Resource) (count : Nat) :
    Stutters (List.replicate (count + 1) (.delete host resource)) [.delete host resource] := by
  induction count with
  | zero => exact .refl _
  | succ count ih => exact .again ih

theorem Stutters.behind (stutters : Stutters first second) (head : Request) :
    first.destutter' (fun first second => ¬ first.repeats second) head =
      second.destutter' (fun first second => ¬ first.repeats second) head := by
  induction stutters generalizing head with
  | nil => rfl
  | cons request _ ih => rw [List.destutter'_cons, List.destutter'_cons, ih, ih]
  | @again first second host resource _ ih =>
      have once : ¬ ¬ repeats (.delete host resource) (.delete host resource) :=
        not_not_intro (repeats_delete host resource)
      rw [← ih, List.destutter'_cons, List.destutter'_cons_neg first once, List.destutter'_cons]
      split
      · rfl
      · rfl

theorem Stutters.collapse_eq (stutters : Stutters first second) :
    collapse first = collapse second := by
  induction stutters with
  | nil => rfl
  | cons request rest => exact rest.behind request
  | @again first second host resource _ ih =>
      have once : ¬ ¬ repeats (.delete host resource) (.delete host resource) :=
        not_not_intro (repeats_delete host resource)
      rw [← ih, collapse, collapse, List.destutter_cons', List.destutter_cons',
        List.destutter'_cons_neg first once]

end Request

namespace Trail

def requests (trail : Trail Backend) : List Request := trail.answers.map Sigma.fst

def expiries (trail : Trail Backend) : Nat := trail.placed.countP Estate.Reply.expired

theorem placed_append (first second : Trail Backend) :
    placed (first ++ second) = first.placed ++ second.placed := by
  rw [placed, answers_append, List.filter_append]
  rfl

theorem Alike.requests {first second : Trail Backend} (alike : first.Alike second) :
    Trail.requests first = Trail.requests second := by
  have kept (replies : List Estate.Reply) :
      (replies.map Estate.Reply.mute).map Sigma.fst = replies.map Sigma.fst := by
    rw [List.map_map]
    rfl
  rw [Trail.requests, Trail.requests, ← kept, alike.answers, kept]

theorem Alike.lasts {first second : Trail Backend} (alike : first.Alike second)
    (cost : Request → Nat) : Trail.lasts (I := Backend) cost first = second.lasts cost := by
  have kept (trail : Trail Backend) :
      Trail.lasts (I := Backend) cost (trail.map Sight.mute) = trail.lasts cost := by
    induction trail with
    | nil => rfl
    | cons sight trail ih =>
        rw [List.map_cons, Trail.lasts, Trail.lasts, ih]
        cases sight <;> rfl
  rw [← kept, alike, kept]

/-- The trail and one without expired sessions bring the fleet from one state to another and ask for
the same, but that some deletions are repeated at once. Each of these takes the interval and the
latency of the host. -/
structure Masked (policy : RetryPolicy) (host : String) (start : Estate) (before after : Fleet)
    (trail clean : Trail Backend) : Prop where
  calm : clean.Tells false
  told : (start.faultless before).Tells clean.placed
  state : (start.faultless before).after clean.placed = start.faultless after
  stutters : Request.Stutters trail.requests clean.requests
  lasts : trail.lasts start.latency = clean.lasts start.latency +
    trail.expiries * (policy.interval.milliseconds + (start.latencies.lookup host).getD 0)

variable {policy : RetryPolicy} {host : String} {start : Estate} {before middle after : Fleet}
  {first second trail clean more others : Trail Backend}

theorem Masked.append (masked : Masked policy host start before middle first second)
    (rest : Masked policy host start middle after more others) :
    Masked policy host start before after (first ++ more) (second ++ others) := by
  refine ⟨tells_append.mpr ⟨masked.calm, rest.calm⟩, ?_, ?_, ?_, ?_⟩
  · rw [placed_append, Estate.tells_append, masked.state]
    exact ⟨masked.told, rest.told⟩
  · rw [placed_append, Estate.after_append, masked.state, rest.state]
  · rw [requests, requests, answers_append, answers_append, List.map_append, List.map_append]
    exact masked.stutters.append rest.stutters
  · rw [lasts_append, lasts_append, expiries, placed_append, List.countP_append, Nat.add_mul,
      masked.lasts, rest.lasts]
    exact Nat.add_add_add_comm ..

theorem masked_of_still (calm : trail.Tells false)
    (excused : Estate.Excused before trail.placed after)
    (still : ∀ reply ∈ trail.placed, reply.1.drains = false) :
    Masked policy host start before after trail trail := by
  obtain ⟨told, state⟩ := excused.tells still start
  refine ⟨calm, told, state, .refl _, ?_⟩
  have none : trail.expiries = 0 := by
    refine List.countP_eq_zero.mpr fun reply member expired => ?_
    have drains := excused.drains_of_expired reply member expired
    rw [still reply member] at drains
    cases drains
  rw [none, Nat.zero_mul, Nat.add_zero]

end Trail

namespace Action

variable {policy : RetryPolicy} {host : String} {start : Estate} {α β : Type}

/-- However sessions expire meanwhile, as long as no deletion runs out of attempts, the action comes
to the same as on a trail on which they do not. -/
def Masks (policy : RetryPolicy) (host : String) (start : Estate) (action : Action α) : Prop :=
  ∀ trail result before after, Program.Yields action.run trail result → trail.Tells false →
    Estate.Excused before trail.placed after → Estate.Patient (policy.retries + 1) trail.placed →
    ∃ clean, Program.Yields action.run clean result ∧
      trail.Masked policy host start before after clean

theorem masks_of_asks {action : Action α}
    (still : ∀ trail request, action.Asks trail request → request.drains = false) :
    action.Masks policy host start := by
  intro trail result before after taken calm excused patient
  refine ⟨trail, taken, Trail.masked_of_still calm excused fun reply member => ?_⟩
  have seen : reply ∈ trail.answers := List.mem_of_mem_filter member
  obtain ⟨earlier, later, rfl⟩ := List.append_of_mem (Trail.mem_answers_iff.mp seen)
  exact still earlier reply.1 taken.asks

theorem Masks.bind {action : Action α} {rest : α → Action β} (one : action.Masks policy host start)
    (later : ∀ value, (rest value).Masks policy host start) :
    (action >>= rest).Masks policy host start := by
  intro trail result before after taken calm excused patient
  obtain ⟨failure, ends, rfl⟩ | ⟨value, first, second, rfl, ends, goes⟩ :=
    yields_bind_iff.mp taken
  · obtain ⟨clean, ends, masked⟩ := one trail _ before after ends calm excused patient
    exact ⟨clean, yields_bind_iff.mpr (.inl ⟨failure, ends, rfl⟩), masked⟩
  · rw [Trail.tells_append] at calm
    rw [Trail.placed_append] at excused patient
    obtain ⟨middle, here, there⟩ := excused.split
    obtain ⟨head, ends, masked⟩ := one first _ before middle ends calm.1 here
      (patient.of_infix (List.prefix_append _ _).isInfix)
    obtain ⟨tail, goes, rest⟩ := later value second _ middle after goes calm.2 there
      (patient.of_infix (List.suffix_append _ _).isInfix)
    exact ⟨head ++ tail, yields_bind_iff.mpr (.inr ⟨value, head, tail, rfl, ends, goes⟩),
      masked.append rest⟩

theorem masks_passedOn : PassedOn fun _ action => action.Masks policy host start where
  silent silent := masks_of_asks fun trail request asked => absurd asked (silent trail request)
  bind := Masks.bind

theorem masks_ask {request : Request} (still : request.drains = false) :
    (ask request).Masks policy host start :=
  masks_of_asks fun _ _ asked => request_of_asks_ask asked ▸ still

end Action

namespace Teardown

open Tenancy.Action

variable {policy : RetryPolicy} {host partition : String} {start : Estate} {resource : Resource}
  {trail : Trail Backend} {before after : Fleet}

structure Persists (interval : Span) (host : String) (resource : Resource) (start : Estate)
    (trail : Trail Backend) : Prop where
  requests : trail.requests = List.replicate (trail.expiries + 1) (.delete host resource)
  lasts : trail.lasts start.latency =
    trail.expiries * interval.milliseconds +
      (trail.expiries + 1) * (start.latencies.lookup host).getD 0

section

variable {interval : Span} {retries number : Nat} {later : Trail Backend}
  {result : Except TenantError Unit}

theorem attempt_asks_first
    (taken : Program.Yields (Deletion.attempt interval host resource retries number).run trail
      result) :
    ∃ answer later, trail = .asked (.delete host resource) answer :: later := by
  rw [Deletion.attempt] at taken
  obtain ⟨answer, later, rfl, -⟩ := yields_ask_bind_iff.mp taken
  exact ⟨answer, later, rfl⟩

theorem attempt_yields_gone {answer : Except DeviceError Unit}
    (taken : Program.Yields (Deletion.attempt interval host resource retries number).run
      (.asked (.delete host resource) answer :: later) result) (gone : isGone answer) :
    later = [] ∧ result = .ok () := by
  rw [Deletion.attempt] at taken
  obtain ⟨_, _, same, goes⟩ := yields_ask_bind_iff.mp taken
  cases same
  rcases answer with (_ | _ | _) | _
  case error.authExpired | error.other => cases gone
  case error.notFound | ok =>
    obtain ⟨ended, rfl⟩ := goes
    exact ⟨ended, rfl⟩

theorem attempt_yields_expired {reporter detail : String}
    (taken : Program.Yields (Deletion.attempt interval host resource (retries + 1) number).run
      (.asked (.delete host resource) (.error (.authExpired reporter detail)) :: later) result)
    (calm : later.Tells false) :
    ∃ rest, later = .paused interval.milliseconds false :: rest ∧
      Program.Yields (Deletion.attempt interval host resource retries (number + 1)).run rest
        result := by
  rw [Deletion.attempt] at taken
  obtain ⟨_, _, same, goes⟩ := yields_ask_bind_iff.mp taken
  cases same
  obtain ⟨requested, rest, rfl, again⟩ := yields_note_bind_iff.mp goes
  obtain ⟨rfl, -⟩ := Trail.tells_cons_paused.mp calm
  exact ⟨rest, rfl, again⟩

theorem persists_once (answer : Except DeviceError Unit)
    (fine : Estate.Reply.expired ⟨.delete host resource, answer⟩ = false) :
    Persists interval host resource start [.asked (.delete host resource) answer] := by
  have none : Trail.expiries [.asked (.delete host resource) answer] = 0 := by
    rw [Trail.expiries, Trail.placed_asked rfl, List.countP_cons_of_neg (by simp [fine])]
    rfl
  refine ⟨by rw [none]; rfl, ?_⟩
  rw [none, Nat.zero_mul, Nat.zero_add, Nat.zero_add, Nat.one_mul]
  rfl

theorem Persists.again {reporter detail : String}
    (persists : Persists interval host resource start trail) :
    Persists interval host resource start
      (.asked (.delete host resource) (.error (.authExpired reporter detail)) ::
        .paused interval.milliseconds false :: trail) := by
  have more : Trail.expiries (.asked (.delete host resource)
      (.error (.authExpired reporter detail)) :: .paused interval.milliseconds false :: trail) =
        trail.expiries + 1 := by
    rw [Trail.expiries, Trail.placed_asked rfl]
    exact List.countP_cons_of_pos rfl
  refine ⟨?_, ?_⟩
  · rw [more, List.replicate_succ, ← persists.requests]
    rfl
  · have rest := persists.lasts
    rw [more, Trail.lasts, Trail.lasts, rest]
    simp only [Sight.lasts, Estate.latency]
    ring

theorem isGone_comply (fleet : Fleet) :
    isGone (Estate.comply fleet (.delete host resource)).1 := by
  rw [Estate.comply]
  split
  · rfl
  · rfl

theorem attempt_once
    (taken : Program.Yields (Deletion.attempt interval host resource retries number).run
      (.asked (.delete host resource) (Estate.comply before (.delete host resource)).1 :: later)
      result)
    (rest : Estate.Excused (Estate.comply before (.delete host resource)).2 later.placed after) :
    result = .ok () ∧ after = Estate.removed before host resource ∧
      Persists interval host resource start
        (.asked (.delete host resource) (Estate.comply before (.delete host resource)).1 ::
          later) := by
  obtain ⟨rfl, ended⟩ := attempt_yields_gone taken (isGone_comply before)
  rw [Estate.comply_delete] at rest
  cases rest with
  | done => exact ⟨ended, rfl, persists_once _ (Estate.comply_not_expired before _)⟩

/-- A deletion that does not run out of attempts comes to its end, and the object is gone. -/
theorem attempt_persists
    (taken : Program.Yields (Deletion.attempt interval host resource retries number).run trail
      result)
    (calm : trail.Tells false) (excused : Estate.Excused before trail.placed after)
    (patient : ∀ run, run <+: trail.placed →
      (∀ reply ∈ run, reply.1 = .delete host resource ∧ reply.expired) → run.length < retries + 1) :
    result = .ok () ∧ after = Estate.removed before host resource ∧
      Persists interval host resource start trail := by
  induction retries generalizing number trail before with
  | zero =>
      obtain ⟨answer, later, rfl⟩ := attempt_asks_first taken
      rw [Trail.placed_asked rfl] at excused patient
      obtain ⟨rfl, rest⟩ | ⟨reporter, detail, next, rfl, carried, rest⟩ := excused.of_delete
      · exact attempt_once taken rest
      · have once := patient [⟨.delete host resource, .error (.authExpired reporter detail)⟩]
          (List.prefix_append _ _) (List.forall_mem_singleton.mpr ⟨rfl, rfl⟩)
        exact absurd once (Nat.lt_irrefl 1)
  | succ retries ih =>
      obtain ⟨answer, later, rfl⟩ := attempt_asks_first taken
      rw [Trail.placed_asked rfl] at excused patient
      obtain ⟨rfl, rest⟩ | ⟨reporter, detail, next, rfl, carried, rest⟩ := excused.of_delete
      · exact attempt_once taken rest
      · rw [Trail.tells_cons_asked] at calm
        obtain ⟨more, rfl, goes⟩ := attempt_yields_expired taken calm
        obtain ⟨ended, gone, persists⟩ := ih goes (Trail.tells_cons_paused.mp calm).2 rest
          fun run first expired => by
            have longer := patient
              (⟨.delete host resource, .error (.authExpired reporter detail)⟩ :: run)
              ((List.prefix_cons_inj _).mpr first)
              (List.forall_mem_cons.mpr ⟨⟨rfl, rfl⟩, expired⟩)
            exact Nat.lt_of_succ_lt_succ longer
        refine ⟨ended, ?_, persists.again⟩
        obtain rfl | rfl := carried
        · exact gone
        · rw [gone, Estate.removed_removed]

end

theorem delete_masks : (Deletion.delete policy host resource).Masks policy host start := by
  intro trail result before after taken calm excused patient
  obtain ⟨rfl, rfl, persists⟩ : result = .ok () ∧ after = Estate.removed before host resource ∧
      Persists policy.interval host resource start trail :=
    attempt_persists taken calm excused fun run first => patient _ run first.isInfix
  let answer := (Estate.comply before (.delete host resource)).1
  have gone : isGone answer := isGone_comply before
  refine ⟨[.asked (.delete host resource) answer], attempt_succeeds_iff.mpr (.gone gone), ?_⟩
  have served := Estate.respond_faultless start before (.delete host resource)
  refine ⟨?_, ?_, ?_, ?_, ?_⟩
  · exact Trail.tells_cons_asked.mpr (List.forall_mem_nil _)
  · rw [Trail.placed_asked rfl, Estate.Tells, served]
    exact ⟨rfl, trivial⟩
  · rw [Trail.placed_asked rfl, Estate.after, List.foldl_cons, served, Estate.comply_delete]
    rfl
  · rw [persists.requests]
    exact Request.stutters_replicate host resource trail.expiries
  · rw [persists.lasts, Trail.lasts, Trail.lasts]
    simp only [Sight.lasts, Estate.latency]
    ring

theorem releaseTag_masks : (releaseTag host resource).Masks policy host start := by
  refine masks_of_asks fun trail request asked => ?_
  obtain ⟨tag, -, rfl⟩ := releaseTag_asks asked
  rfl

theorem drainEach_masks (resources : List Resource) :
    (drainEach policy host resources).Masks policy host start := by
  induction resources with
  | nil => exact masks_passedOn.pure ()
  | cons resource resources ih =>
      exact delete_masks.bind fun _ => releaseTag_masks.bind fun _ => ih

theorem drains_of_not_changes {request : Request} (reads : request.changes = false) :
    request.drains = false := by
  cases request with
  | probe | list => rfl
  | create | delete | releasePort | releaseTag => cases reads

theorem work_masks (names : List String) (stage : Stage) :
    (work policy host partition names stage).Masks policy host start := by
  cases stage with
  | draining kind =>
      have listed : (Catalog.list host partition kind).Masks policy host start :=
        Catalog.list_of_passedOn masks_passedOn (masks_ask rfl)
      exact listed.bind drainEach_masks
  | ports | offered | routeDomains | folder =>
      refine masks_of_asks fun trail request asked => ?_
      cases changes : request.changes with
      | false => exact drains_of_not_changes changes
      | true => cases work_asks asked changes <;> rfl

theorem run_masks : (run policy host partition).Masks policy host start :=
  run_of_passedOn masks_passedOn (fun _ reads => masks_ask (drains_of_not_changes reads)) work_masks

end Teardown

end Tenancy
