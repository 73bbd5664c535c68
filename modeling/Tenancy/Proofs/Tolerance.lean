import Tenancy.Cleanup
import Tenancy.Proofs.Batch.Lockstep
import Tenancy.Proofs.Program.Action
import Tenancy.Proofs.Teardown.Completion

/-!
What the manager makes of answers that differ a little. A deletion that finds nothing is as good as
one that succeeds, ports may be released or not, and of a device's failure only its class decides
what happens next.
-/

namespace Tenancy

/-- How far the failures of devices may differ, and which events are listened for. Where events with
the text of a failure are heard, failures may not differ at all. -/
structure Tolerance where
  near : DeviceError → DeviceError → Prop
  hears : Level → Bool
  authExpired : ∀ {first second}, near first second → first.isAuthExpired = second.isAuthExpired
  notFound : ∀ {first second}, near first second → first.isNotFound = second.isNotFound
  debug : hears .debug = false
  plain : ∀ {level}, hears level = true → ∀ {first second}, near first second → first = second

namespace Tolerance

def strict : Tolerance where
  near := Eq
  hears level := level.rank < Level.debug.rank
  authExpired := congrArg _
  notFound := congrArg _
  debug := rfl
  plain := fun _ _ _ same => same

variable (tolerance : Tolerance)

inductive Within {α β : Type} (Agrees : α → β → Prop) :
    Except DeviceError α → Except DeviceError β → Prop
  | ok {first second} (agrees : Agrees first second) :
      Within Agrees (.ok first) (.ok second)
  | error {first second} (near : tolerance.near first second) :
      Within Agrees (.error first) (.error second)

/-- Answers that a manager cannot tell apart, but for the text of failures. What an appliance says
of the object that it created is not used. -/
def alike : (request : Request) → request.Answer → request.Answer → Prop
  | .probe .., first, second => tolerance.Within Eq first second
  | .create .., first, second => tolerance.Within (fun _ _ => True) first second
  | .list .., first, second => tolerance.Within Eq first second
  | .delete .., first, second =>
      Teardown.isGone first ∧ Teardown.isGone second ∨ tolerance.Within Eq first second
  | .releasePort .., _, _ => True
  | .releaseTag .., first, second => first = second

def likeness : Likeness Backend := ⟨tolerance.alike, fun event => tolerance.hears event.level⟩

theorem strict_alike {request : Request} {first second : request.Answer} (same : first = second) :
    strict.alike request first second := by
  have within {α : Type} (answer : Except DeviceError α) : strict.Within Eq answer answer := by
    cases answer with
    | ok value => exact .ok rfl
    | error source => exact .error rfl
  subst same
  cases request with
  | probe | list => exact within first
  | create =>
      cases first with
      | ok resource => exact .ok trivial
      | error source => exact .error rfl
  | delete => exact .inr (within first)
  | releasePort => trivial
  | releaseTag => rfl

inductive NearFailure : TenantError → TenantError → Prop
  | same (failure) : NearFailure failure failure
  | provisioning (tenant host) {first second} (near : tolerance.near first second) :
      NearFailure (.provisioning tenant host first) (.provisioning tenant host second)
  | catalog (host partition kind) {first second} (near : tolerance.near first second) :
      NearFailure (.catalog host partition kind first) (.catalog host partition kind second)
  | deletion (host kind name attempts) {first second} (near : tolerance.near first second) :
      NearFailure (.deletion host kind name attempts first)
        (.deletion host kind name attempts second)
  | routeDomain (host partition name) {first second} (near : tolerance.near first second) :
      NearFailure (.routeDomain host partition name first)
        (.routeDomain host partition name second)
  | folder (host partition) {first second} (near : tolerance.near first second) :
      NearFailure (.folder host partition first) (.folder host partition second)

inductive Ends {α : Type} : Except TenantError α → Except TenantError α → Prop
  | ok (value) : Ends (.ok value) (.ok value)
  | error {first second} (near : tolerance.NearFailure first second) :
      Ends (.error first) (.error second)

theorem NearFailure.eq {first second : TenantError} (near : strict.NearFailure first second) :
    first = second := by
  have same {own other : DeviceError} (near : strict.near own other) : own = other := near
  cases near with
  | same failure => rfl
  | provisioning _ _ near => rw [same near]
  | catalog _ _ _ near => rw [same near]
  | deletion _ _ _ _ near => rw [same near]
  | routeDomain _ _ _ near => rw [same near]
  | folder _ _ near => rw [same near]

theorem Ends.eq {α : Type} {first second : Except TenantError α}
    (ends : strict.Ends first second) : first = second := by
  cases ends with
  | ok value => rfl
  | error near => rw [near.eq]

variable {tolerance}

theorem delete_cases {host : String} {resource : Resource} {first second : Except DeviceError Unit}
    (same : tolerance.alike (.delete host resource) first second) :
    (Teardown.isGone first ∧ Teardown.isGone second) ∨
      (∃ reporter detail reporter' detail', first = .error (.authExpired reporter detail) ∧
        second = .error (.authExpired reporter' detail') ∧
        tolerance.near (.authExpired reporter detail) (.authExpired reporter' detail')) ∨
      ∃ reporter detail reporter' detail', first = .error (.other reporter detail) ∧
        second = .error (.other reporter' detail') ∧
        tolerance.near (.other reporter detail) (.other reporter' detail') := by
  obtain gone | within := same
  · exact .inl gone
  · cases within with
    | ok => exact .inl ⟨rfl, rfl⟩
    | @error first second near =>
        have expired := tolerance.authExpired near
        have missing := tolerance.notFound near
        cases first with
        | notFound => exact .inl ⟨rfl, missing.symm⟩
        | authExpired reporter detail =>
            cases second with
            | authExpired reporter' detail' =>
                exact .inr (.inl ⟨_, _, _, _, rfl, rfl, near⟩)
            | notFound | other => cases expired
        | other reporter detail =>
            cases second with
            | other reporter' detail' => exact .inr (.inr ⟨_, _, _, _, rfl, rfl, near⟩)
            | notFound => cases missing
            | authExpired => cases expired

end Tolerance

namespace Action

variable {α β : Type} {tolerance : Tolerance}

def Alike (tolerance : Tolerance) (action other : Action α) : Prop :=
  Program.Alike tolerance.likeness tolerance.Ends action.run other.run

theorem alike_pure (value : α) : Alike tolerance (pure value) (pure value) :=
  .done (.ok value)

theorem alike_throw {failure other : TenantError} (near : tolerance.NearFailure failure other) :
    Alike tolerance (throw failure : Action α) (throw other) :=
  .done (.error near)

theorem Alike.bind {action other : Action α} {rest next : α → Action β}
    (first : Alike tolerance action other)
    (later : ∀ value, Alike tolerance (rest value) (next value)) :
    Alike tolerance (action >>= rest) (other >>= next) := by
  rw [Alike, run_bind, run_bind]
  refine Program.Alike.bind first fun result result' ends => ?_
  cases ends with
  | ok value => exact later value
  | error near => exact .done (.error near)

theorem alike_ask_bind {request : Request} {rest next : request.Answer → Action α}
    (later : ∀ first second, tolerance.alike request first second →
      Alike tolerance (rest first) (next second)) :
    Alike tolerance (ask request >>= rest) (ask request >>= next) := by
  rw [Alike, run_bind, run_bind]
  exact Program.Alike.ask (I := Backend) request later

theorem alike_note_bind {level : Level} {origin : Origin} {message : String}
    {rest next : Unit → Action α} (later : Alike tolerance (rest ()) (next ())) :
    Alike tolerance (note level origin message >>= rest) (note level origin message >>= next) := by
  rw [Alike, run_bind, run_bind]
  exact .write _ later

theorem alike_notes_bind {level : Level} {origin : Origin} {message text : String}
    {rest next : Unit → Action α} (same : tolerance.hears level = true → message = text)
    (later : Alike tolerance (rest ()) (next ())) :
    Alike tolerance (note level origin message >>= rest) (note level origin text >>= next) := by
  cases heard : tolerance.hears level with
  | true =>
      rw [same heard]
      exact alike_note_bind later
  | false =>
      rw [Alike, run_bind, run_bind]
      exact .writeLeft heard (.writeRight heard later)

theorem alike_of_note_left {level : Level} {origin : Origin} {message : String}
    {rest : Unit → Action α} {other : Action α} (unheard : tolerance.hears level = false)
    (later : Alike tolerance (rest ()) other) :
    Alike tolerance (note level origin message >>= rest) other := by
  rw [Alike, run_bind]
  exact .writeLeft unheard later

theorem alike_of_note_right {level : Level} {origin : Origin} {message : String}
    {rest : Unit → Action α} {action : Action α} (unheard : tolerance.hears level = false)
    (later : Alike tolerance action (rest ())) :
    Alike tolerance action (note level origin message >>= rest) := by
  rw [Alike, run_bind]
  exact .writeRight unheard later

theorem alike_note {level : Level} {origin : Origin} {message text : String}
    (same : tolerance.hears level = true → message = text) :
    Alike tolerance (note level origin message) (note level origin text) := by
  cases heard : tolerance.hears level with
  | true =>
      rw [same heard]
      exact .write _ (.done (.ok ()))
  | false => exact .writeLeft heard (.writeRight heard (.done (.ok ())))

theorem alike_pause (milliseconds : Nat) :
    Alike tolerance (pause milliseconds) (pause milliseconds) :=
  .pause milliseconds fun requested => .done (.ok requested)

theorem alike_shutdownRequested : Alike tolerance shutdownRequested shutdownRequested :=
  .look fun requested => .done (.ok requested)

end Action

variable {tolerance : Tolerance} {policy : RetryPolicy} {host partition : String}

open Tenancy.Action

namespace Catalog

theorem list_alike (kind : Kind) :
    Alike tolerance (list host partition kind) (list host partition kind) := by
  refine alike_ask_bind fun first second same => ?_
  cases same with
  | ok agrees =>
      subst agrees
      exact alike_pure _
  | error near => exact alike_throw (.catalog host partition kind near)

theorem routeDomainNames_alike :
    Alike tolerance (routeDomainNames host partition) (routeDomainNames host partition) :=
  (list_alike .routeDomain).bind fun _ => alike_pure _

theorem lacks_alike (kinds : List Kind) :
    Alike tolerance (lacks host partition kinds) (lacks host partition kinds) := by
  induction kinds with
  | nil => exact alike_pure true
  | cons kind kinds ih =>
      refine (list_alike kind).bind fun resources => ?_
      split
      · exact ih
      · exact alike_pure false

end Catalog

namespace Deletion

theorem giveUp_alike {resource : Resource} {attempts : Nat} {first second : DeviceError}
    (near : tolerance.near first second) :
    Alike tolerance (giveUp host resource attempts first)
      (giveUp host resource attempts second) :=
  alike_notes_bind (fun heard => by rw [tolerance.plain heard near])
    (alike_throw (.deletion host resource.kind resource.name attempts near))

theorem eq_of_isGone {answer : Except DeviceError Unit} (gone : Teardown.isGone answer) :
    answer = .ok () ∨ ∃ reporter kind name, answer = .error (.notFound reporter kind name) := by
  rcases answer with (_ | ⟨reporter, kind, name⟩ | _) | _
  · cases gone
  · exact .inr ⟨reporter, kind, name, rfl⟩
  · cases gone
  · exact .inl rfl

theorem attempt_alike_step {interval : Span} {resource : Resource} {retries number : Nat}
    (later : ∀ fewer, retries = fewer + 1 →
      Alike tolerance (attempt interval host resource fewer (number + 1))
        (attempt interval host resource fewer (number + 1))) :
    Alike tolerance (attempt interval host resource retries number)
      (attempt interval host resource retries number) := by
  have quiet {message text : String} :
      Alike tolerance (note .debug .deleter message) (note .debug .deleter text) :=
    alike_note fun heard => by simp [tolerance.debug] at heard
  rw [attempt]
  refine alike_ask_bind fun first second same => ?_
  obtain ⟨gone, gone'⟩ | ⟨_, _, _, _, rfl, rfl, near⟩ | ⟨_, _, _, _, rfl, rfl, near⟩ :=
    tolerance.delete_cases same
  · obtain rfl | ⟨_, _, _, rfl⟩ := eq_of_isGone gone <;>
      obtain rfl | ⟨_, _, _, rfl⟩ := eq_of_isGone gone' <;> exact quiet
  · cases retries with
    | zero => exact giveUp_alike near
    | succ fewer =>
        refine alike_notes_bind (fun heard => by rw [tolerance.plain heard near]) ?_
        refine (alike_pause _).bind fun requested => ?_
        cases requested with
        | false => exact later fewer rfl
        | true => exact alike_throw (.same _)
  · exact giveUp_alike near

theorem attempt_alike (interval : Span) (resource : Resource) (retries number : Nat) :
    Alike tolerance (attempt interval host resource retries number)
      (attempt interval host resource retries number) := by
  induction retries generalizing number with
  | zero => exact attempt_alike_step nofun
  | succ retries ih =>
      refine attempt_alike_step fun fewer same => ?_
      obtain rfl := Nat.succ.inj same
      exact ih (number + 1)

end Deletion

namespace Teardown

theorem checkpoint_alike :
    Alike tolerance (checkpoint host partition) (checkpoint host partition) := by
  refine alike_shutdownRequested.bind fun requested => ?_
  cases requested with
  | false => exact alike_pure ()
  | true => exact alike_note_bind (alike_throw (.same _))

theorem releaseEach_alike (resources : List Resource) :
    Alike tolerance (releaseEach resources) (releaseEach resources) := by
  induction resources with
  | nil => exact alike_pure ()
  | cons resource resources ih =>
      refine alike_ask_bind fun first second _ => ?_
      cases first <;> cases second
      · exact alike_notes_bind (fun heard => by simp [tolerance.debug] at heard) ih
      · exact alike_of_note_left tolerance.debug ih
      · exact alike_of_note_right tolerance.debug ih
      · exact ih

theorem releasePorts_alike (kinds : List Kind) :
    Alike tolerance (releasePorts host partition kinds) (releasePorts host partition kinds) := by
  induction kinds with
  | nil => exact alike_pure ()
  | cons kind kinds ih =>
      refine alike_ask_bind fun first second same => ?_
      cases same with
      | ok agrees =>
          subst agrees
          exact (releaseEach_alike _).bind fun _ => ih
      | error near =>
          exact alike_notes_bind (fun heard => by simp [tolerance.debug] at heard) ih

theorem releaseTag_alike (resource : Resource) :
    Alike tolerance (releaseTag host resource) (releaseTag host resource) := by
  unfold releaseTag
  cases resource.fabricTag with
  | none => exact alike_pure ()
  | some tag =>
      refine alike_ask_bind fun first second same => ?_
      obtain rfl : first = second := same
      cases first with
      | ok => exact alike_pure ()
      | error source => exact alike_note_bind (alike_throw (.same _))

theorem drainEach_alike (resources : List Resource) :
    Alike tolerance (drainEach policy host resources) (drainEach policy host resources) := by
  induction resources with
  | nil => exact alike_pure ()
  | cons resource resources ih =>
      exact (Deletion.attempt_alike _ resource _ 1).bind fun _ =>
        (releaseTag_alike resource).bind fun _ => ih

theorem drain_alike (kinds : List Kind) :
    Alike tolerance (drain policy host partition kinds) (drain policy host partition kinds) := by
  induction kinds with
  | nil => exact alike_pure ()
  | cons kind kinds ih =>
      exact checkpoint_alike.bind fun _ => (Catalog.list_alike kind).bind fun resources =>
        (drainEach_alike resources).bind fun _ => ih

theorem deleteRouteDomains_alike (names : List String) :
    Alike tolerance (deleteRouteDomains host partition names)
      (deleteRouteDomains host partition names) := by
  induction names with
  | nil => exact alike_pure ()
  | cons name names ih =>
      refine alike_ask_bind fun first second same => ?_
      obtain ⟨gone, gone'⟩ | ⟨_, _, _, _, rfl, rfl, near⟩ | ⟨_, _, _, _, rfl, rfl, near⟩ :=
        tolerance.delete_cases same
      · -- Only a deletion that found its object is noted.
        obtain rfl | ⟨_, _, _, rfl⟩ := Deletion.eq_of_isGone gone <;>
          obtain rfl | ⟨_, _, _, rfl⟩ := Deletion.eq_of_isGone gone'
        · exact alike_note_bind ih
        · exact alike_of_note_left tolerance.debug ih
        · exact alike_of_note_right tolerance.debug ih
        · exact ih
      · exact alike_notes_bind (fun heard => by rw [tolerance.plain heard near])
          (alike_throw (.routeDomain host partition name near))
      · exact alike_notes_bind (fun heard => by rw [tolerance.plain heard near])
          (alike_throw (.routeDomain host partition name near))

theorem deleteFolder_alike :
    Alike tolerance (deleteFolder host partition) (deleteFolder host partition) := by
  refine alike_ask_bind fun first second same => ?_
  obtain ⟨gone, gone'⟩ | ⟨_, _, _, _, rfl, rfl, near⟩ | ⟨_, _, _, _, rfl, rfl, near⟩ :=
    tolerance.delete_cases same
  · obtain rfl | ⟨_, _, _, rfl⟩ := Deletion.eq_of_isGone gone <;>
      obtain rfl | ⟨_, _, _, rfl⟩ := Deletion.eq_of_isGone gone' <;> exact alike_pure ()
  · exact alike_notes_bind (fun heard => by rw [tolerance.plain heard near])
      (alike_throw (.folder host partition near))
  · exact alike_notes_bind (fun heard => by rw [tolerance.plain heard near])
      (alike_throw (.folder host partition near))

theorem dismantle_alike (names : List String) :
    Alike tolerance (dismantle policy host partition names)
      (dismantle policy host partition names) := by
  refine checkpoint_alike.bind fun _ => (releasePorts_alike Kind.portBound).bind fun _ => ?_
  refine checkpoint_alike.bind fun _ => (drain_alike Kind.drainOrder).bind fun _ => ?_
  refine checkpoint_alike.bind fun _ => alike_note_bind ?_
  refine (deleteRouteDomains_alike names).bind fun _ => checkpoint_alike.bind fun _ => ?_
  exact deleteFolder_alike.bind fun _ => alike_note_bind (alike_pure _)

/-- A teardown goes the same way whatever of these answers it gets. -/
theorem run_alike :
    Alike tolerance (run policy host partition) (run policy host partition) := by
  refine alike_ask_bind fun first second same => ?_
  cases same with
  | error near => exact alike_throw (.catalog host partition .folder near)
  | @ok first _ agrees =>
      subst agrees
      cases first with
      | false => exact alike_note_bind (alike_pure _)
      | true =>
          refine Catalog.routeDomainNames_alike.bind fun names => ?_
          refine (Catalog.lacks_alike Kind.loadBearing).bind fun isEmpty => ?_
          cases isEmpty with
          | true => exact dismantle_alike names
          | false => exact alike_note_bind (alike_pure _)

end Teardown

namespace Cleanup

theorem inTurn_alike (hosts : List String) :
    Alike tolerance (inTurn policy partition hosts) (inTurn policy partition hosts) := by
  induction hosts with
  | nil => exact alike_pure []
  | cons host hosts ih =>
      exact Teardown.run_alike.bind fun _ => ih.bind fun _ => alike_pure _

theorem conclude_alike (outcomes : List (String × Outcome)) (failures : List (String × TenantError))
    (results : List (String × Except TenantError Outcome)) :
    Alike tolerance (conclude partition outcomes failures results)
      (conclude partition outcomes failures results) := by
  induction results generalizing outcomes failures with
  | nil =>
      unfold conclude
      split
      · exact alike_pure _
      · exact alike_throw (.same _)
  | cons entry results ih =>
      obtain ⟨host, outcome | failure⟩ := entry
      · exact alike_note_bind (ih outcomes _)
      · exact ih _ failures

end Cleanup

end Tenancy
