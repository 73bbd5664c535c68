import Tenancy.Proofs.Blame

/-!
What a failing call becomes: which failure it is passed on as, and which error is logged for it right
after its answer. No error is logged for anything else.
-/

namespace Tenancy

def Request.isRead : Request → Bool
  | probe .. | list .. => true
  | create .. | delete .. | releasePort _ | releaseTag .. => false

/-- The answer of a call becomes this failure, and this event is written for it. Nothing is written
for a call that only reads. -/
inductive Raises : (request : Request) → request.Answer → TenantError → Option Event → Prop
  | unassured {host kind name} (tenant source) :
      Raises (.probe host kind name) (.error source) (.provisioning tenant host source) none
  | unprobed {host kind name} (source) :
      Raises (.probe host kind name) (.error source) (.catalog host name kind source) none
  | unlisted {host kind partition} (source) :
      Raises (.list host kind partition) (.error source) (.catalog host partition kind source) none
  | uncreated {host kind payload} (tenant source) :
      Raises (.create host kind payload) (.error source) (.provisioning tenant host source)
        (some ⟨.error, .manager, "Error creating folder " ++ Request.payloadName payload ++ " on " ++
          host ++ ": " ++ source.message⟩)
  | undeleted {host resource} (attempts source) :
      Raises (.delete host resource) (.error source)
        (.deletion host resource.kind resource.name attempts source)
        (some ⟨.error, .deleter, "Failed to delete " ++ resource.kind.text ++ " " ++ resource.name ++
          " on " ++ host ++ ": " ++ source.message⟩)
  | unreleased {host tag} (source) :
      Raises (.releaseTag host tag) (.error source) (.fabricCleanup host tag source)
        (some ⟨.error, .manager, "Fabric cleanup of tag " ++ toString tag.toNat ++ " for " ++ host ++
          " failed: " ++ source.message⟩)
  | routeDomain {host partition name} (source) :
      Raises (.delete host (.routeDomain partition name)) (.error source)
        (.routeDomain host partition name source)
        (some ⟨.error, .manager, "Failed to delete route domain " ++ name ++ " on " ++ host ++ ": " ++
          source.message ++ ". Manual intervention might be required."⟩)
  | folder {host partition} (source) :
      Raises (.delete host (.folder partition)) (.error source) (.folder host partition source)
        (some ⟨.error, .manager, "Folder deletion for partition " ++ partition ++ " on " ++ host ++
          " failed: " ++ source.message ++ ". Manual cleanup might be required."⟩)

theorem Raises.eq_none_iff {request : Request} {answer : request.Answer} {failure : TenantError}
    {complaint : Option Event} (raises : Raises request answer failure complaint) :
    complaint = none ↔ request.isRead := by
  cases raises <;> simp [Request.isRead]

theorem Raises.isError {request : Request} {answer : request.Answer} {failure : TenantError}
    {event : Event} (raises : Raises request answer failure (some event)) : event.level = .error := by
  cases raises <;> rfl

theorem Raises.ofCall {request : Request} {answer : request.Answer} {failure : TenantError}
    {complaint : Option Event} (raises : Raises request answer failure complaint) :
    failure.ofCall := by
  cases raises <;> rfl

inductive Complains {α : Type} (request : Request) (answer : request.Answer) :
    Program Backend (Except TenantError α) → Prop
  | silent {failure} (raises : Raises request answer failure none) :
      Complains request answer (.done (.error failure))
  | aloud {failure event} (raises : Raises request answer failure (some event)) :
      Complains request answer (.write event (.done (.error failure)))

/-- A program that fails on its own account or right after the call that failed, and logs an error
only then. -/
def Program.Outspoken {α : Type} : Program Backend (Except TenantError α) → Prop
  | done (.ok _) => True
  | done (.error failure) => failure.ofCall = false
  | write event next => event.level ≠ .error ∧ next.Outspoken
  | ask request next => ∀ answer, (next answer).Outspoken ∨ Complains request answer (next answer)
  | pause _ next => ∀ requested, (next requested).Outspoken
  | look next => ∀ requested, (next requested).Outspoken

namespace Action

variable {α β : Type} {action : Action α}

def Outspoken (action : Action α) : Prop := Program.Outspoken action.run

theorem outspoken_pure (value : α) : (pure value : Action α).Outspoken := trivial

theorem outspoken_throw {failure : TenantError} (own : failure.ofCall = false) :
    (throw failure : Action α).Outspoken := own

theorem Complains.andThen {request : Request} {answer : request.Answer}
    {program : Program Backend (Except TenantError α)} (complains : Complains request answer program)
    (rest : α → Action β) : Complains request answer (program.bind (andThen rest)) := by
  cases complains with
  | silent raises => exact .silent raises
  | aloud raises => exact .aloud raises

theorem Outspoken.bind {rest : α → Action β} (first : action.Outspoken)
    (later : ∀ value, (rest value).Outspoken) : (action >>= rest).Outspoken := by
  have goes (program : Program Backend (Except TenantError α)) (outspoken : program.Outspoken) :
      (program.bind (andThen rest)).Outspoken := by
    induction program with
    | done result =>
        cases result with
        | ok value => exact later value
        | error failure => exact outspoken
    | write event next ih => exact ⟨outspoken.1, ih outspoken.2⟩
    | ask request next ih =>
        intro answer
        obtain goesOn | complains := outspoken answer
        · exact .inl (ih answer goesOn)
        · exact .inr (Complains.andThen complains rest)
    | pause milliseconds next ih | look next ih =>
        exact fun requested => ih requested (outspoken requested)
  rw [Outspoken, run_bind]
  exact goes action.run first

theorem Outspoken.map (change : α → β) (outspoken : action.Outspoken) :
    (change <$> action).Outspoken := by
  rw [map_eq_pure_bind]
  exact outspoken.bind fun value => outspoken_pure (change value)

theorem outspoken_note {level : Level} {origin : Origin} {message : String}
    (quiet : level ≠ .error) : (note level origin message).Outspoken := ⟨quiet, trivial⟩

theorem outspoken_note_bind {level : Level} {origin : Origin} {message : String}
    {rest : Unit → Action α} (quiet : level ≠ .error) (later : (rest ()).Outspoken) :
    (note level origin message >>= rest).Outspoken := ⟨quiet, later⟩

theorem outspoken_ask_bind {request : Request} {rest : request.Answer → Action α}
    (each : ∀ answer, (rest answer).Outspoken ∨ Complains request answer (rest answer).run) :
    (ask request >>= rest).Outspoken := each

theorem outspoken_pause_bind {milliseconds : Nat} {rest : Bool → Action α}
    (each : ∀ requested, (rest requested).Outspoken) : (pause milliseconds >>= rest).Outspoken :=
  each

theorem outspoken_look_bind {rest : Bool → Action α}
    (each : ∀ requested, (rest requested).Outspoken) : (shutdownRequested >>= rest).Outspoken :=
  each

end Action

open Tenancy.Action

namespace Catalog

variable (host partition : String)

theorem list_outspoken (kind : Kind) : (list host partition kind).Outspoken := by
  refine outspoken_ask_bind fun answer => ?_
  cases answer with
  | ok resources => exact .inl (outspoken_pure resources)
  | error source => exact .inr (.silent (.unlisted source))

theorem routeDomainNames_outspoken : (routeDomainNames host partition).Outspoken :=
  (list_outspoken host partition .routeDomain).bind fun _ => outspoken_pure _

theorem lacks_outspoken (kinds : List Kind) : (lacks host partition kinds).Outspoken := by
  induction kinds with
  | nil => exact outspoken_pure true
  | cons kind kinds ih =>
      refine (list_outspoken host partition kind).bind fun resources => ?_
      split
      · exact ih
      · exact outspoken_pure false

end Catalog

namespace Deletion

variable (interval : Span) (host : String) (resource : Resource)

theorem giveUp_complains (attempts : Nat) (source : DeviceError) :
    Complains (.delete host resource) (.error source) (giveUp host resource attempts source).run :=
  .aloud (.undeleted attempts source)

theorem attempt_outspoken (retries number : Nat) :
    (attempt interval host resource retries number).Outspoken := by
  induction retries generalizing number with
  | zero =>
      rw [attempt]
      refine outspoken_ask_bind fun answer => ?_
      rcases answer with (_ | _ | _) | _
      · exact .inr (giveUp_complains host resource number _)
      · exact .inl (outspoken_note (by decide))
      · exact .inr (giveUp_complains host resource number _)
      · exact .inl (outspoken_note (by decide))
  | succ retries ih =>
      rw [attempt]
      refine outspoken_ask_bind fun answer => ?_
      rcases answer with (_ | _ | _) | _
      · refine .inl (outspoken_note_bind (by decide) (outspoken_pause_bind fun requested => ?_))
        cases requested with
        | true => exact outspoken_throw rfl
        | false => exact ih (number + 1)
      · exact .inl (outspoken_note (by decide))
      · exact .inr (giveUp_complains host resource number _)
      · exact .inl (outspoken_note (by decide))

end Deletion

namespace Teardown

variable (policy : RetryPolicy) (host partition : String)

theorem checkpoint_outspoken : (checkpoint host partition).Outspoken := by
  refine outspoken_look_bind fun requested => ?_
  cases requested with
  | true => exact outspoken_note_bind (by decide) (outspoken_throw rfl)
  | false => exact outspoken_pure ()

theorem releaseEach_outspoken (resources : List Resource) : (releaseEach resources).Outspoken := by
  induction resources with
  | nil => exact outspoken_pure ()
  | cons resource resources ih =>
      refine outspoken_ask_bind fun answer => .inl ?_
      cases answer with
      | ok => exact ih
      | error source => exact outspoken_note_bind (by decide) ih

theorem releasePorts_outspoken (kinds : List Kind) :
    (releasePorts host partition kinds).Outspoken := by
  induction kinds with
  | nil => exact outspoken_pure ()
  | cons kind kinds ih =>
      refine outspoken_ask_bind fun answer => .inl ?_
      cases answer with
      | ok resources => exact (releaseEach_outspoken resources).bind fun _ => ih
      | error source => exact outspoken_note_bind (by decide) ih

theorem releaseTag_outspoken (resource : Resource) : (releaseTag host resource).Outspoken := by
  unfold releaseTag
  cases resource.fabricTag with
  | none => exact outspoken_pure ()
  | some tag =>
      refine outspoken_ask_bind fun answer => ?_
      cases answer with
      | ok => exact .inl (outspoken_pure ())
      | error source => exact .inr (.aloud (.unreleased source))

theorem drainEach_outspoken (resources : List Resource) :
    (drainEach policy host resources).Outspoken := by
  induction resources with
  | nil => exact outspoken_pure ()
  | cons resource resources ih =>
      refine (Deletion.attempt_outspoken policy.interval host resource policy.retries 1).bind
        fun _ => ?_
      exact (releaseTag_outspoken host resource).bind fun _ => ih

theorem drain_outspoken (kinds : List Kind) : (drain policy host partition kinds).Outspoken := by
  induction kinds with
  | nil => exact outspoken_pure ()
  | cons kind kinds ih =>
      refine (checkpoint_outspoken host partition).bind fun _ => ?_
      refine (Catalog.list_outspoken host partition kind).bind fun resources => ?_
      exact (drainEach_outspoken policy host resources).bind fun _ => ih

theorem deleteRouteDomains_outspoken (names : List String) :
    (deleteRouteDomains host partition names).Outspoken := by
  induction names with
  | nil => exact outspoken_pure ()
  | cons name names ih =>
      refine outspoken_ask_bind fun answer => ?_
      rcases answer with (_ | _ | _) | _
      · exact .inr (.aloud (.routeDomain _))
      · exact .inl ih
      · exact .inr (.aloud (.routeDomain _))
      · exact .inl (outspoken_note_bind (by decide) ih)

theorem deleteFolder_outspoken : (deleteFolder host partition).Outspoken := by
  refine outspoken_ask_bind fun answer => ?_
  rcases answer with (_ | _ | _) | _
  · exact .inr (.aloud (.folder _))
  · exact .inl (outspoken_pure ())
  · exact .inr (.aloud (.folder _))
  · exact .inl (outspoken_pure ())

theorem dismantle_outspoken (routeDomains : List String) :
    (dismantle policy host partition routeDomains).Outspoken := by
  have checked := checkpoint_outspoken host partition
  refine checked.bind fun _ => ?_
  refine (releasePorts_outspoken host partition Kind.portBound).bind fun _ => ?_
  refine checked.bind fun _ => ?_
  refine (drain_outspoken policy host partition Kind.drainOrder).bind fun _ => ?_
  refine checked.bind fun _ => outspoken_note_bind (by decide) ?_
  refine (deleteRouteDomains_outspoken host partition routeDomains).bind fun _ => ?_
  refine checked.bind fun _ => ?_
  refine (deleteFolder_outspoken host partition).bind fun _ => ?_
  exact outspoken_note_bind (by decide) (outspoken_pure Outcome.removed)

theorem run_outspoken : (run policy host partition).Outspoken := by
  refine outspoken_ask_bind fun answer => ?_
  rcases answer with source | _ | _
  · exact .inr (.silent (.unprobed source))
  · exact .inl (outspoken_note_bind (by decide) (outspoken_pure Outcome.absent))
  · refine .inl ((Catalog.routeDomainNames_outspoken host partition).bind fun routeDomains => ?_)
    refine (Catalog.lacks_outspoken host partition Kind.loadBearing).bind fun empty => ?_
    split
    · exact dismantle_outspoken policy host partition routeDomains
    · exact outspoken_note_bind (by decide) (outspoken_pure Outcome.notEmpty)

end Teardown

theorem Cleanup.inTurn_outspoken (retry : RetryPolicy) (partition : String) (hosts : List String) :
    (inTurn retry partition hosts).Outspoken := by
  induction hosts with
  | nil => exact outspoken_pure []
  | cons host hosts ih =>
      refine (Teardown.run_outspoken retry host partition).bind fun outcome => ?_
      exact ih.bind fun outcomes => outspoken_pure _

namespace Provisioning

variable (naming : Naming) (settings : Settings) (service : Service) (trafficGroup : String)

theorem assureOn_outspoken (host : String) :
    (assureOn naming service trafficGroup host).Outspoken := by
  refine outspoken_ask_bind fun answer => ?_
  rcases answer with source | _ | _
  · exact .inr (.silent (.unassured service.tenant source))
  · refine .inl (outspoken_ask_bind fun answer => ?_)
    cases answer with
    | error source => exact .inr (.aloud (.uncreated service.tenant source))
    | ok => exact .inl (outspoken_note_bind (by decide) (outspoken_pure true))
  · exact .inl (outspoken_note_bind (by decide) (outspoken_pure false))

theorem assureEach_outspoken (hosts : List String) :
    (assureEach naming service trafficGroup hosts).Outspoken := by
  induction hosts with
  | nil => exact outspoken_pure []
  | cons host hosts ih =>
      refine (assureOn_outspoken naming service trafficGroup host).bind fun created => ?_
      exact ih.bind fun others => outspoken_pure _

theorem assureCreated_outspoken : (assureCreated naming settings service).Outspoken := by
  rw [assureCreated]
  split
  · exact outspoken_throw rfl
  · refine outspoken_note_bind (by decide) ?_
    refine (assureEach_outspoken naming service _ service.hosts).bind fun created => ?_
    exact outspoken_pure _

end Provisioning

end Tenancy
