import Mathlib.Data.Nat.Find
import Tenancy.Deletion
import Tenancy.Estate
import Tenancy.Proofs.Program.Action
import Tenancy.Proofs.Signal.History

/-!
Deletion of one object, told exactly: how many attempts are made and when, and how it ends. It ends
with the first answer that is not worth another attempt or with the last attempt that is allowed,
unless shutdown is requested in one of the pauses before.
-/

namespace Tenancy.Deletion

def isExpired : Except DeviceError Unit → Bool
  | .error source => source.isAuthExpired
  | .ok () => false

/-- The attempts to delete a resource as they come if no pause is cut short, the first one as
number zero. -/
structure Attempts (σ : Type) where
  peer : Peer Backend σ
  asker : Nat
  host : String
  resource : Resource
  interval : Span
  start : Surroundings Backend σ

namespace Attempts

variable {σ : Type} (attempts : Attempts σ)

@[reducible] def request : Request := .delete attempts.host attempts.resource

def stateAt : Nat → σ
  | 0 => attempts.start.state
  | number + 1 => (attempts.peer.respond attempts.request (stateAt number)).2

def latencyAt (number : Nat) : Nat :=
  attempts.peer.latency (attempts.stateAt number) attempts.request

def answerAt (number : Nat) : Except DeviceError Unit :=
  (attempts.peer.respond attempts.request (attempts.stateAt number)).1

def callTime : Nat → Nat
  | 0 => attempts.start.now + attempts.latencyAt 0
  | number + 1 => callTime number + attempts.interval.milliseconds + attempts.latencyAt (number + 1)

def calls : Nat → List (Exchange Backend)
  | 0 => []
  | number + 1 =>
      ⟨attempts.callTime number, attempts.asker, attempts.request, attempts.answerAt number⟩ ::
        calls number

def SetsOff (number : Nat) : Prop :=
  attempts.peer.raises (attempts.start.exchanges.length + number) (attempts.stateAt number)
      attempts.request ∧
    attempts.start.watchedUntil (attempts.callTime number)

def Interrupts (number time : Nat) : Prop :=
  attempts.callTime number ≤ time ∧
    time < attempts.callTime number + attempts.interval.milliseconds ∧
    (attempts.start.requestedAt time ∨ ∃ earlier ≤ number, attempts.SetsOff earlier)

def Interrupted (number : Nat) : Prop := ∃ time, attempts.Interrupts number time

def outcome (count : Nat) : Except DeviceError Unit → Except TenantError Unit
  | .ok () | .error (.notFound ..) => .ok ()
  | .error source =>
      .error (.deletion attempts.host attempts.resource.kind attempts.resource.name count source)

structure Ends (run : Except TenantError Unit × Surroundings Backend σ)
    (result : Except TenantError Unit) (count time : Nat) : Prop where
  result : run.1 = result
  calls : run.2.exchanges = attempts.calls count ++ attempts.start.exchanges
  now : run.2.now = time

/-- What a run does whose first attempt is counted as that number. If shutdown is not requested in
a pause before the last attempt, all attempts up to that one are made. Else the deletion is
cancelled when shutdown is first requested in one, and the first such pause is the last thing. -/
structure Goes (run : Except TenantError Unit × Surroundings Backend σ) (number last : Nat) :
    Prop where
  whole : (∀ earlier < last, ¬ attempts.Interrupted earlier) →
    attempts.Ends run (attempts.outcome (last + number) (attempts.answerAt last)) (last + 1)
      (attempts.callTime last)
  cut : ∀ earlier < last, IsLeast {number | attempts.Interrupted number} earlier →
    ∀ time, IsLeast {time | attempts.Interrupts earlier time} time →
      attempts.Ends run (.error (.cancelled attempts.host attempts.resource.partition))
        (earlier + 1) time

def called : Surroundings Backend σ :=
  ((attempts.start.wait (attempts.latencyAt 0)).exchange attempts.peer attempts.asker
    attempts.request).2

variable {attempts}

theorem called_now : attempts.called.now = attempts.callTime 0 := by
  rw [called, Surroundings.exchange_now, Surroundings.wait_now]
  rfl

theorem called_state : attempts.called.state = attempts.stateAt 1 := by
  rw [called, Surroundings.exchange_state, Surroundings.wait_state]
  rfl

theorem called_exchanges :
    attempts.called.exchanges = attempts.calls 1 ++ attempts.start.exchanges := by
  rw [called, Surroundings.exchange_exchanges, Surroundings.wait_exchanges, Surroundings.wait_now,
    Surroundings.wait_state]
  rfl

theorem called_watchedUntil {time : Nat} (after : attempts.callTime 0 ≤ time) :
    attempts.called.watchedUntil time = attempts.start.watchedUntil time := by
  rw [called, Surroundings.watchedUntil_exchange, Surroundings.watchedUntil_wait after]

theorem called_requestedAt (punctual : attempts.start.Punctual) {time : Nat}
    (after : attempts.callTime 0 ≤ time) :
    attempts.called.requestedAt time ↔ attempts.start.requestedAt time ∨ attempts.SetsOff 0 := by
  have watched : (attempts.start.wait (attempts.latencyAt 0)).signal.any (·.live) =
      attempts.start.watchedUntil (attempts.callTime 0) := by
    rw [← punctual.wait.watched, Surroundings.wait_now]
    exact Surroundings.watchedUntil_wait (Nat.le_refl _)
  rw [called, Surroundings.requestedAt_exchange, Surroundings.requestedAt_wait after, watched,
    Surroundings.wait_exchanges, Surroundings.wait_state, SetsOff]
  simp [stateAt]

structure Resumes (attempts : Attempts σ) (later : Surroundings Backend σ) : Prop where
  now : later.now = attempts.callTime 0 + attempts.interval.milliseconds
  state : later.state = attempts.stateAt 1
  exchanges : later.exchanges = attempts.calls 1 ++ attempts.start.exchanges
  punctual : later.Punctual
  requestedAt : ∀ time ≥ later.now,
    later.requestedAt time ↔ attempts.start.requestedAt time ∨ attempts.SetsOff 0
  watchedUntil : ∀ time ≥ later.now,
    later.watchedUntil time = attempts.start.watchedUntil time

def resumed (attempts : Attempts σ) (later : Surroundings Backend σ) : Attempts σ :=
  { attempts with start := later }

section

variable {later : Surroundings Backend σ} {number time : Nat}

theorem Resumes.of_whole {event : Event} (punctual : attempts.start.Punctual) :
    attempts.Resumes ((attempts.called.write event).passTo
      (attempts.callTime 0 + attempts.interval.milliseconds) attempts.called.moments) where
  now := Surroundings.passTo_now ..
  state := (Surroundings.passTo_keeps ..).1.trans called_state
  exchanges := (Surroundings.passTo_keeps ..).2.trans called_exchanges
  punctual := Surroundings.punctual_passTo
  requestedAt time after := by
    rw [Surroundings.passTo_now] at after
    have same := @Surroundings.requestedAt_passTo _ _ (attempts.called.write event) _ _ after
    exact same ▸ called_requestedAt punctual (Nat.le_trans (Nat.le_add_right ..) after)
  watchedUntil time after := by
    rw [Surroundings.passTo_now] at after
    have same := @Surroundings.watchedUntil_passTo _ _ (attempts.called.write event) _ _ after
    exact same.trans (called_watchedUntil (Nat.le_trans (Nat.le_add_right ..) after))

namespace Resumes

theorem stateAt_eq (resumes : attempts.Resumes later) :
    (attempts.resumed later).stateAt number = attempts.stateAt (number + 1) := by
  induction number with
  | zero => exact resumes.state
  | succ number ih => exact congrArg (fun state => (attempts.peer.respond _ state).2) ih

theorem latencyAt_eq (resumes : attempts.Resumes later) :
    (attempts.resumed later).latencyAt number = attempts.latencyAt (number + 1) :=
  congrArg (attempts.peer.latency · _) resumes.stateAt_eq

theorem answerAt_eq (resumes : attempts.Resumes later) :
    (attempts.resumed later).answerAt number = attempts.answerAt (number + 1) :=
  congrArg (fun state => (attempts.peer.respond _ state).1) resumes.stateAt_eq

theorem callTime_eq (resumes : attempts.Resumes later) :
    (attempts.resumed later).callTime number = attempts.callTime (number + 1) := by
  induction number with
  | zero => rw [callTime, callTime, resumes.latencyAt_eq, ← resumes.now]; rfl
  | succ number ih => rw [callTime, ih, resumes.latencyAt_eq]; rfl

theorem calls_eq (resumes : attempts.Resumes later) :
    (attempts.resumed later).calls number ++ later.exchanges =
      attempts.calls (number + 1) ++ attempts.start.exchanges := by
  induction number with
  | zero => exact resumes.exchanges
  | succ number ih =>
      rw [calls, calls, List.cons_append, ih, resumes.callTime_eq, resumes.answerAt_eq]
      rfl

theorem now_le_callTime (resumes : attempts.Resumes later) (number : Nat) :
    later.now ≤ attempts.callTime (number + 1) := by
  rw [← resumes.callTime_eq]
  induction number with
  | zero => exact Nat.le_add_right ..
  | succ number ih => exact Nat.le_trans ih (by rw [callTime]; omega)

theorem setsOff_iff (resumes : attempts.Resumes later) :
    (attempts.resumed later).SetsOff number ↔ attempts.SetsOff (number + 1) := by
  have count : later.exchanges.length + number =
      attempts.start.exchanges.length + (number + 1) := by
    rw [resumes.exchanges, List.length_append]
    simp only [calls, List.length_cons, List.length_nil]
    omega
  have watched := resumes.watchedUntil _ (resumes.now_le_callTime number)
  rw [SetsOff, SetsOff, resumes.stateAt_eq, resumes.callTime_eq]
  simp only [resumed, count, watched]

theorem interrupts_iff (resumes : attempts.Resumes later) :
    (attempts.resumed later).Interrupts number time ↔ attempts.Interrupts (number + 1) time := by
  rw [Interrupts, Interrupts, resumes.callTime_eq]
  refine and_congr_right fun after => and_congr_right fun _ => ?_
  have now : later.now ≤ time := Nat.le_trans (resumes.now_le_callTime number) after
  simp only [resumes.setsOff_iff]
  constructor
  · rintro (requested | ⟨earlier, before, sets⟩)
    · obtain own | sets := (resumes.requestedAt time now).mp requested
      · exact .inl own
      · exact .inr ⟨0, Nat.zero_le _, sets⟩
    · exact .inr ⟨earlier + 1, Nat.succ_le_succ before, sets⟩
  · rintro (own | ⟨_ | earlier, before, sets⟩)
    · exact .inl ((resumes.requestedAt time now).mpr (.inl own))
    · exact .inl ((resumes.requestedAt time now).mpr (.inr sets))
    · exact .inr ⟨earlier, Nat.le_of_succ_le_succ before, sets⟩

theorem ends (resumes : attempts.Resumes later)
    {run : Except TenantError Unit × Surroundings Backend σ} {result : Except TenantError Unit}
    (ends : (attempts.resumed later).Ends run result number time) :
    attempts.Ends run result (number + 1) time :=
  ⟨ends.result, ends.calls.trans resumes.calls_eq, ends.now⟩

end Resumes

end

def run (attempts : Attempts σ) (retries number : Nat) :
    Except TenantError Unit × Surroundings Backend σ :=
  (attempt attempts.interval attempts.host attempts.resource retries number).run.run attempts.peer
    attempts.asker attempts.start

variable {retries number : Nat}

theorem run_ask_bind (next : Except DeviceError Unit → Action Unit) :
    (Action.ask attempts.request >>= next).run.run attempts.peer attempts.asker attempts.start =
      (next (attempts.answerAt 0)).run.run attempts.peer attempts.asker attempts.called := by
  have asked : ((attempts.start.wait (attempts.latencyAt 0)).exchange attempts.peer attempts.asker
      attempts.request).1 = attempts.answerAt 0 := by
    rw [Surroundings.exchange_answer, Surroundings.wait_state]
    rfl
  rw [← asked]
  rfl

theorem run_settled (settled : isExpired (attempts.answerAt 0) = false ∨ retries = 0) :
    attempts.Ends (attempts.run retries number)
      (attempts.outcome number (attempts.answerAt 0)) 1 (attempts.callTime 0) := by
  rw [run, attempt, run_ask_bind]
  rcases answer : attempts.answerAt 0 with (_ | _ | _) | _
  case error.authExpired =>
    obtain none | rfl := settled
    · rw [answer] at none
      cases none
    · exact ⟨rfl, called_exchanges, called_now⟩
  case error.notFound | error.other | ok => exact ⟨rfl, called_exchanges, called_now⟩

theorem run_expired (expired : isExpired (attempts.answerAt 0)) :
    ∃ event, attempts.run (retries + 1) number =
      match (attempts.called.write event).pause attempts.interval.milliseconds with
      | (true, after) => (.error (.cancelled attempts.host attempts.resource.partition), after)
      | (false, after) => (attempts.resumed after).run retries (number + 1) := by
  rw [run, attempt, run_ask_bind]
  rcases answer : attempts.answerAt 0 with (_ | _ | _) | _
  case error.authExpired reporter detail =>
    let event : Event := ⟨.warn, .deleter, "Attempt " ++ toString number ++ ": " ++
      DeviceError.message (.authExpired reporter detail)⟩
    refine ⟨event, ?_⟩
    -- The program looks at what the pause tells after it was made.
    let paused := (attempts.called.write event).pause attempts.interval.milliseconds
    change Program.run ((if paused.1 then
        throw (.cancelled attempts.host attempts.resource.partition)
      else attempt attempts.interval attempts.host attempts.resource retries (number + 1) :
        Action Unit).run) attempts.peer attempts.asker paused.2 =
      match paused with
      | (true, after) => (.error (.cancelled attempts.host attempts.resource.partition), after)
      | (false, after) => (attempts.resumed after).run retries (number + 1)
    rcases paused with ⟨_ | _, after⟩ <;> rfl
  case error.notFound | error.other | ok =>
    rw [answer] at expired
    cases expired

theorem interrupts_zero_iff (punctual : attempts.start.Punctual) {time : Nat} :
    attempts.Interrupts 0 time ↔ attempts.called.now ≤ time ∧
      time < attempts.called.now + attempts.interval.milliseconds ∧
        attempts.called.requestedAt time := by
  rw [called_now, Interrupts]
  refine and_congr_right fun after => and_congr_right fun _ => ?_
  rw [called_requestedAt punctual after]
  simp

theorem pause_cases (punctual : attempts.start.Punctual)
    (positive : 0 < attempts.interval.milliseconds) (event : Event) :
    (∃ later, (attempts.called.write event).pause attempts.interval.milliseconds = (false, later) ∧
        attempts.Resumes later ∧ ¬ attempts.Interrupted 0) ∨
      ∃ after, (attempts.called.write event).pause attempts.interval.milliseconds = (true, after) ∧
        after.exchanges = attempts.calls 1 ++ attempts.start.exchanges ∧
        IsLeast {time | attempts.Interrupts 0 time} after.now := by
  have kept := (attempts.called.write event).pause_exchanges attempts.interval.milliseconds
  have lasts := (attempts.called.write event).pause_lasts positive
  generalize (attempts.called.write event).pause attempts.interval.milliseconds = result
    at kept lasts
  cases lasts with
  | whole calm =>
      have resumes := @Resumes.of_whole _ attempts event punctual
      rw [← called_now] at resumes
      refine .inl ⟨_, rfl, resumes, fun ⟨time, interrupts⟩ => ?_⟩
      obtain ⟨_, low, requested⟩ := (interrupts_zero_iff punctual).mp interrupts
      exact absurd requested (Bool.eq_false_iff.mp (calm time low))
  | @cut after raised first =>
      refine .inr ⟨after, rfl, kept.trans called_exchanges, ?_⟩
      have same : {time | attempts.Interrupts 0 time} = _ :=
        Set.ext fun time => interrupts_zero_iff punctual
      rw [same]
      exact first

def IsLast (attempts : Attempts σ) (retries last : Nat) : Prop :=
  IsLeast {number | isExpired (attempts.answerAt number) = false ∨ number = retries} last

theorem IsLast.le {last : Nat} (final : attempts.IsLast retries last) : last ≤ retries :=
  final.2 (.inr rfl)

theorem IsLast.eq_zero {last : Nat} (final : attempts.IsLast retries last)
    (settled : isExpired (attempts.answerAt 0) = false ∨ retries = 0) : last = 0 :=
  Nat.le_zero.mp (final.2 (settled.imp_right Eq.symm))

theorem IsLast.ne_zero {last : Nat} (final : attempts.IsLast (retries + 1) last)
    (expired : isExpired (attempts.answerAt 0)) : last ≠ 0 := by
  rintro rfl
  obtain settled | none := final.1
  · simp [settled] at expired
  · cases none

namespace Resumes

variable {later : Surroundings Backend σ} {last cut : Nat}

theorem isLast (resumes : attempts.Resumes later)
    (final : attempts.IsLast (retries + 1) (last + 1)) :
    (attempts.resumed later).IsLast retries last := by
  have shifted (number : Nat) :
      (isExpired ((attempts.resumed later).answerAt number) = false ∨ number = retries) ↔
        isExpired (attempts.answerAt (number + 1)) = false ∨ number + 1 = retries + 1 := by
    rw [resumes.answerAt_eq, Nat.add_right_cancel_iff]
  exact ⟨(shifted last).mpr final.1, fun number own =>
    Nat.le_of_succ_le_succ (final.2 ((shifted number).mp own))⟩

theorem interrupted_iff (resumes : attempts.Resumes later) (number : Nat) :
    (attempts.resumed later).Interrupted number ↔ attempts.Interrupted (number + 1) :=
  exists_congr fun _ => resumes.interrupts_iff

theorem isLeast_interrupted (resumes : attempts.Resumes later)
    (least : IsLeast {earlier | attempts.Interrupted earlier} (cut + 1)) :
    IsLeast {earlier | (attempts.resumed later).Interrupted earlier} cut :=
  ⟨(resumes.interrupted_iff cut).mpr least.1, fun number own =>
    Nat.le_of_succ_le_succ (least.2 ((resumes.interrupted_iff number).mp own))⟩

/-- What is done after a whole pause is done all in all. -/
theorem goes (resumes : attempts.Resumes later) (whole : ¬ attempts.Interrupted 0)
    {run : Except TenantError Unit × Surroundings Backend σ}
    (goes : (attempts.resumed later).Goes run (number + 1) last) :
    attempts.Goes run number (last + 1) where
  whole none := by
    have ends := resumes.ends (goes.whole fun earlier before =>
      (resumes.interrupted_iff earlier).not.mpr (none _ (Nat.succ_lt_succ before)))
    rwa [resumes.answerAt_eq, resumes.callTime_eq, Nat.add_left_comm, Nat.add_comm number] at ends
  cut
    | 0, _, first, _, _ => absurd first.1 whole
    | earlier + 1, before, first, time, least => by
        have least : IsLeast {time | (attempts.resumed later).Interrupts earlier time} time := by
          simpa only [resumes.interrupts_iff] using least
        exact resumes.ends (goes.cut earlier (Nat.lt_of_succ_lt_succ before)
          (resumes.isLeast_interrupted first) time least)

end Resumes

namespace Goes

variable {run : Except TenantError Unit × Surroundings Backend σ}

theorem of_settled (ends : attempts.Ends run
    (attempts.outcome number (attempts.answerAt 0)) 1 (attempts.callTime 0)) :
    attempts.Goes run number 0 :=
  ⟨fun _ => (Nat.zero_add number).symm ▸ ends, nofun⟩

theorem of_cut {after : Surroundings Backend σ} {last : Nat}
    (asked : after.exchanges = attempts.calls 1 ++ attempts.start.exchanges)
    (least : IsLeast {time | attempts.Interrupts 0 time} after.now) :
    attempts.Goes (.error (.cancelled attempts.host attempts.resource.partition), after) number
      (last + 1) where
  whole none := absurd ⟨_, least.1⟩ (none 0 (Nat.succ_pos last))
  cut earlier _ first time other := by
    obtain rfl := Nat.le_zero.mp (first.2 ⟨_, least.1⟩)
    exact ⟨rfl, asked, least.unique other⟩

end Goes

theorem run_goes (punctual : attempts.start.Punctual)
    (positive : 0 < attempts.interval.milliseconds) {last : Nat}
    (final : attempts.IsLast retries last) :
    attempts.Goes (attempts.run retries number) number last := by
  induction retries generalizing attempts number last with
  | zero =>
      obtain rfl := final.eq_zero (.inr rfl)
      exact Goes.of_settled (run_settled (.inr rfl))
  | succ retries ih =>
      by_cases expired : isExpired (attempts.answerAt 0)
      · obtain ⟨last, rfl⟩ := Nat.exists_eq_add_one_of_ne_zero (final.ne_zero expired)
        obtain ⟨event, goes⟩ := @run_expired _ _ retries number expired
        obtain ⟨later, paused, resumes, whole⟩ | ⟨after, paused, asked, least⟩ :=
          pause_cases punctual positive event
        · rw [goes, paused]
          refine resumes.goes whole ?_
          exact @ih (attempts.resumed later) (number + 1) resumes.punctual positive last
            (resumes.isLast final)
        · rw [goes, paused]
          exact Goes.of_cut asked least
      · have settled := Bool.eq_false_iff.mpr expired
        obtain rfl := final.eq_zero (.inl settled)
        exact Goes.of_settled (run_settled (.inl settled))

end Attempts

/-- A deletion makes its attempts until the first answer that is not worth another one or until all
that are allowed are made, unless shutdown is requested in a pause before. -/
theorem delete_goes {σ : Type} (policy : RetryPolicy) (host : String) (resource : Resource)
    (peer : Peer Backend σ) (asker : Nat) (surroundings : Surroundings Backend σ)
    (punctual : surroundings.Punctual) (positive : 0 < policy.interval.milliseconds) :
    let attempts : Attempts σ := ⟨peer, asker, host, resource, policy.interval, surroundings⟩
    let most := max 1 policy.maxAttempts.toNat
    ∃ last,
      IsLeast {number | isExpired (attempts.answerAt number) = false ∨ number + 1 = most} last ∧
      last + 1 ≤ most ∧ most < UInt32.size ∧
      attempts.Goes ((delete policy host resource).run.run peer asker surroundings) 1 last := by
  intro attempts most
  have allowed : policy.retries + 1 = most := by
    simp only [RetryPolicy.retries, most]
    omega
  have bounded : most < UInt32.size := by
    have small := policy.maxAttempts.toNat_lt
    simp only [most, UInt32.size]
    omega
  have ends : ∃ number, isExpired (attempts.answerAt number) = false ∨ number + 1 = most :=
    ⟨policy.retries, .inr allowed⟩
  obtain ⟨last, least⟩ : ∃ last, IsLeast
      {number | isExpired (attempts.answerAt number) = false ∨ number + 1 = most} last :=
    ⟨Nat.find ends, Nat.find_spec ends, fun _ => Nat.find_min' ends⟩
  have final : attempts.IsLast policy.retries last := by
    simpa only [Attempts.IsLast, ← allowed, Nat.add_right_cancel_iff] using least
  have within : last ≤ policy.retries := final.le
  have goes := @Attempts.run_goes _ attempts policy.retries 1 punctual positive last final
  exact ⟨last, least, by omega, bounded, goes⟩

def forgetfulEstate : Estate :=
  ⟨⟨[("h", ⟨["P"], []⟩)]⟩, [("h", 5)],
    [⟨.delete, none, none, none, none, 0, none, ⟨.authExpired, "401", none, none, none⟩, false⟩]⟩

theorem delete_goes_forgetful :
    let surroundings : Surroundings Backend Estate :=
      ⟨forgetfulEstate, 0, some ⟨false, true⟩, [⟨1500, .raise⟩], [], []⟩
    let attempts : Attempts Estate := ⟨Estate.peer none, 0, "h", .folder "P",
      RetryPolicy.default.interval, surroundings⟩
    let run := (delete .default "h" (.folder "P")).run.run (Estate.peer none) 0 surroundings
    surroundings.Punctual ∧ 0 < RetryPolicy.default.interval.milliseconds ∧
      run.2.now = 1500 ∧ run.2.exchanges.map (·.time) = [1010, 5] ∧
      ∃ last,
        IsLeast {number | isExpired (attempts.answerAt number) = false ∨ number + 1 = 3} last ∧
        last + 1 ≤ 3 ∧ 3 < UInt32.size ∧ attempts.Goes run 1 last := by
  intro surroundings attempts run
  have punctual : surroundings.Punctual := by
    rintro _ ⟨⟩
    exact Nat.zero_le _
  have positive : 0 < RetryPolicy.default.interval.milliseconds := by decide
  refine ⟨punctual, positive, by decide +kernel, by decide +kernel, ?_⟩
  exact delete_goes .default "h" (.folder "P") (Estate.peer none) 0 surroundings punctual positive

end Tenancy.Deletion
