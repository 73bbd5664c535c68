import Tenancy.Proofs.Cleanup.Ports
import Tenancy.Proofs.Provisioning.Course
import Tenancy.Proofs.Teardown.Blame

/-!
Failures name what failed. A creation or a teardown that fails ends with the call that failed, and
its failure tells that call and its answer; where several teardowns fail, each failure is reported
for the host that it names.
-/

namespace Tenancy

def TenantError.host? : TenantError → Option String
  | provisioning _ host _ | catalog host .. | deletion host .. | fabricCleanup host ..
  | routeDomain host .. | folder host .. | cancelled host _ => some host
  | noAppliances _ | incomplete .. => none

def TenantError.failures : TenantError → List (String × TenantError)
  | incomplete failures _ => failures
  | _ => []

/-- A failure that stands for a call that failed, as a cancellation does not, nor the refusal of a
service without appliances. -/
def TenantError.ofCall : TenantError → Bool
  | noAppliances _ | cancelled .. => false
  | _ => true

namespace Provisioning

inductive Blames (naming : Naming) (service : Service) (trafficGroup : String) :
    Sight Backend → TenantError → Prop
  | unprobed {host} (member : host ∈ service.hosts) (source) :
      Blames naming service trafficGroup
        (.asked (.probe host .folder (naming.folderName service.tenant)) (.error source))
        (.provisioning service.tenant host source)
  | uncreated {host} (member : host ∈ service.hosts) (source) :
      Blames naming service trafficGroup
        (.asked (.create host .folder (naming.descriptor service trafficGroup)) (.error source))
        (.provisioning service.tenant host source)

variable {naming : Naming} {settings : Settings} {service : Service} {trafficGroup : String}
  {hosts : List String} {trail : Trail Backend} {failure : TenantError}

def EndsWith (naming : Naming) (service : Service) (trafficGroup : String)
    (trail : Trail Backend) (failure : TenantError) : Prop :=
  ∃ earlier last, trail = earlier ++ [last] ∧
    Blames naming service trafficGroup last failure ∧ ∀ sight ∈ earlier, sight.fails = false

theorem assureEach_ends_with (subset : hosts ⊆ service.hosts)
    (taken : Program.Yields (assureEach naming service trafficGroup hosts).run trail
      (.error failure)) :
    EndsWith naming service trafficGroup trail failure := by
  induction hosts generalizing trail with
  | nil => cases taken.2
  | cons host hosts ih =>
      have member := subset List.mem_cons_self
      rw [assureEach] at taken
      obtain ⟨_, ends, same⟩ | ⟨created, first, second, rfl, succeeds, goes⟩ :=
        Action.yields_bind_iff.mp taken
      · obtain rfl := Except.error.inj same
        obtain ⟨-, same⟩ | ⟨_, -, same⟩ | ⟨source, rfl, same⟩ | ⟨source, rfl, same⟩ :=
          assureOn_cases ends
        · cases same
        · cases same
        · obtain rfl := Except.error.inj same
          exact ⟨[], _, rfl, .unprobed member source, List.forall_mem_nil _⟩
        · obtain rfl := Except.error.inj same
          exact ⟨[_], _, rfl, .uncreated member source, List.forall_mem_singleton.mpr rfl⟩
      · have calm : ∀ sight ∈ first, sight.fails = false := by
          obtain ⟨rfl, -⟩ | ⟨_, rfl, -⟩ | ⟨_, -, same⟩ | ⟨_, -, same⟩ := assureOn_cases succeeds
          · exact List.forall_mem_singleton.mpr rfl
          · exact List.forall_mem_cons.mpr ⟨rfl, List.forall_mem_singleton.mpr rfl⟩
          · cases same
          · cases same
        obtain ⟨_, ends, same⟩ | ⟨_, _, _, -, -, ended⟩ := Action.yields_bind_iff.mp goes
        · obtain rfl := Except.error.inj same
          obtain ⟨earlier, last, rfl, blames, rest⟩ := ih (List.subset_of_cons_subset subset) ends
          exact ⟨first ++ earlier, last, (List.append_assoc ..).symm, blames,
            List.forall_mem_append.mpr ⟨calm, rest⟩⟩
        · cases ended.2

theorem assureCreated_ends_with
    (taken : Program.Yields (assureCreated naming settings service).run trail (.error failure))
    (called : failure.ofCall) :
    EndsWith naming service (settings.trafficGroup service) trail failure := by
  rw [assureCreated] at taken
  split at taken
  · obtain rfl := Except.error.inj taken.2
    cases called
  obtain ⟨_, ends, same⟩ | ⟨_, _, _, -, -, ended⟩ :=
    Action.yields_bind_iff.mp (Action.yields_note_bind_iff.mp taken)
  · obtain rfl := Except.error.inj same
    exact assureEach_ends_with (List.Subset.refl _) ends
  · cases ended.2

end Provisioning

namespace Teardown

theorem run_fails_host {policy : RetryPolicy} {host partition : String} {trail : Trail Backend}
    {failure : TenantError}
    (taken : Program.Yields (run policy host partition).run trail (.error failure)) :
    failure.host? = some host := by
  obtain ⟨ends, -⟩ := run_ends taken
  generalize trail.stage? = stage at ends
  cases ends with
  | unread | cancelled => rfl
  | failed fails => cases fails <;> rfl

end Teardown

namespace Cleanup

theorem mem_failuresOf_iff {results : List (String × Except TenantError Outcome)} {host : String}
    {failure : TenantError} :
    (host, failure) ∈ failuresOf results ↔ (host, .error failure) ∈ results := by
  induction results with
  | nil => simp [failuresOf]
  | cons entry results ih =>
      obtain ⟨other, own | outcome⟩ := entry
      · have first : failuresOf ((other, .error own) :: results) =
            (other, own) :: failuresOf results := rfl
        simp [first, ih]
      · have skipped : failuresOf ((other, .ok outcome) :: results) = failuresOf results := rfl
        simp [skipped, ih]

theorem failures_taken {σ : Type} {retry : RetryPolicy} {partition : String} {hosts : List String}
    {maxParallel : Nat} {peer : Peer Backend σ} {surroundings : Surroundings Backend σ}
    {failures : List (String × TenantError)} {report : Report}
    (ended : ((undertaking retry partition hosts (.bestEffort maxParallel)).run peer
      surroundings).1 = .error (.incomplete failures report)) {host : String}
    {failure : TenantError} (member : (host, failure) ∈ failures) :
    ∃ trail, Program.Yields (Teardown.run retry host partition).run trail (.error failure) := by
  obtain ⟨_, -, shares, shared, taken⟩ :=
    offers_ports retry partition hosts (.bestEffort maxParallel) peer surroundings
  have reported := shared.reported.2
  rw [ended, verdict] at reported
  split at reported
  · cases reported
  · obtain ⟨rfl, -⟩ := TenantError.incomplete.inj (Except.error.inj reported)
    obtain ⟨⟨own, before, after, result⟩, found, same⟩ :=
      List.mem_map.mp (mem_failuresOf_iff.mp member)
    cases same
    exact ⟨before ++ after, (taken _ found).1⟩

end Cleanup

/-- Whatever is answered and whenever shutdown is requested: a creation or a teardown that fails,
and not for want of appliances or for a cancellation, ends with the call that its failure names,
and passes over all failures before; and each failure of a best-effort cleanup is reported for the
host that it names. -/
theorem failures_name_the_failed_call :
    (∀ naming settings service trail failure,
      Program.Yields (Provisioning.assureCreated naming settings service).run trail
        (.error failure) → failure.ofCall →
      Provisioning.EndsWith naming service (settings.trafficGroup service) trail failure) ∧
    (∀ policy host partition trail failure,
      Program.Yields (Teardown.run policy host partition).run trail (.error failure) →
      failure.ofCall → (∀ sight ∈ trail, sight.ShowsOwn) →
      Teardown.EndsWith policy host partition [] trail failure) ∧
    ∀ {σ : Type} retry partition hosts maxParallel (peer : Peer Backend σ) surroundings failures
      report,
      ((Cleanup.undertaking retry partition hosts (.bestEffort maxParallel)).run peer
        surroundings).1 = .error (.incomplete failures report) →
      ∀ entry ∈ failures, entry.2.host? = some entry.1 := by
  refine ⟨?_, ?_, ?_⟩
  · intro naming settings service trail failure taken called
    exact Provisioning.assureCreated_ends_with taken called
  · intro policy host partition trail failure taken called shows
    refine Teardown.run_ends_with taken (fun _ _ same => ?_) shows
    rw [same] at called
    cases called
  · rintro σ retry partition hosts maxParallel peer surroundings failures report ended
      ⟨host, failure⟩ member
    obtain ⟨trail, taken⟩ := Cleanup.failures_taken ended member
    exact Teardown.run_fails_host taken

/-- Of two hosts the second is down. On the first one, the snat translations cannot be listed at
first, no port is released, and no session lasts long enough to delete a VLAN. -/
def strainedEstate : Estate where
  fleet := ⟨[("h1", ⟨["Project_t"], [⟨⟨.selfIp, "s", "Project_t", none⟩, "Project_t"⟩,
    ⟨⟨.vlan, "v", "Project_t", some 17⟩, "Project_t"⟩]⟩)]⟩
  latencies := []
  faults :=
    [⟨.list, none, some .snatTranslation, none, none, 0, some 1,
        ⟨.other, "busy", none, none, none⟩, false⟩,
      ⟨.releasePort, none, none, none, none, 0, none, ⟨.other, "", none, none, none⟩, false⟩,
      ⟨.delete, none, some .vlan, none, none, 0, none,
        ⟨.authExpired, "", none, none, none⟩, false⟩,
      ⟨.probe, some "h2", none, none, none, 0, none, ⟨.other, "", none, none, none⟩, false⟩]

theorem exists_of_mapError {ε ε' α : Type} {change : ε → ε'} {result : Except ε α} {value : ε'}
    (ended : result.mapError change = .error value) :
    ∃ failure, result = .error failure ∧ change failure = value := by
  cases result with
  | ok => cases ended
  | error failure => exact ⟨failure, rfl, Except.error.inj ended⟩

theorem failures_name_the_failed_call_strainedEstate :
    let peer := Estate.peer none
    let start : Surroundings Backend Estate := .start strainedEstate
    let service : Service := ⟨"t", none, [⟨"h1"⟩, ⟨"h2"⟩]⟩
    let creation := (Provisioning.assureCreated .default .default service).run
    let teardown := (Teardown.run .default "h1" "Project_t").run
    (∃ failure, (creation.run peer 0 start).1 = .error failure ∧ failure.ofCall ∧
      failure.message = "folder creation error for tenant t on h2" ∧
      Provisioning.EndsWith .default service (Settings.default.trafficGroup service)
        (creation.trail peer 0 start) failure) ∧
    (∃ failure, (teardown.run peer 0 start).1 = .error failure ∧ failure.ofCall ∧
      failure.message = "failed to delete vlan 'v' on h1 after 3 attempt(s)" ∧
      (∀ sight ∈ teardown.trail peer 0 start, sight.ShowsOwn) ∧
      Teardown.EndsWith .default "h1" "Project_t" [] (teardown.trail peer 0 start) failure) ∧
    ∃ failures report,
      ((Cleanup.undertaking .default "Project_t" ["h1", "h2"] (.bestEffort 2)).run peer
        start).1 = .error (.incomplete failures report) ∧
      failures.map (fun entry => (entry.1, entry.2.message)) =
        [("h1", "failed to delete vlan 'v' on h1 after 3 attempt(s)"),
          ("h2", "failed to list folder in partition Project_t on h2")] ∧
      ∀ entry ∈ failures, entry.2.host? = some entry.1 := by
  intro peer start service creation teardown
  obtain ⟨creations, teardowns, cleanups⟩ := failures_name_the_failed_call
  let told (failure : TenantError) : Bool × String := (failure.ofCall, failure.message)
  refine ⟨?_, ?_, ?_⟩
  · have ended : (creation.run peer 0 start).1.mapError told =
        .error (true, "folder creation error for tenant t on h2") := by decide +kernel
    obtain ⟨failure, same, known⟩ := exists_of_mapError ended
    obtain ⟨called, message⟩ := Prod.mk.inj known
    have taken := creation.yields_trail peer 0 start
    rw [same] at taken
    exact ⟨failure, same, called, message,
      creations .default .default service _ failure taken called⟩
  · have ended : (teardown.run peer 0 start).1.mapError told =
        .error (true, "failed to delete vlan 'v' on h1 after 3 attempt(s)") := by decide +kernel
    obtain ⟨failure, same, known⟩ := exists_of_mapError ended
    obtain ⟨called, message⟩ := Prod.mk.inj known
    have taken := teardown.yields_trail peer 0 start
    rw [same] at taken
    have shows : ∀ sight ∈ teardown.trail peer 0 start, sight.ShowsOwn := by decide +kernel
    exact ⟨failure, same, called, message, shows,
      teardowns .default "h1" "Project_t" _ failure taken called shows⟩
  · let listed (failure : TenantError) : List (String × String) :=
      failure.failures.map fun entry => (entry.1, entry.2.message)
    let cleanup := Cleanup.undertaking .default "Project_t" ["h1", "h2"] (.bestEffort 2)
    let batch := Batch.start start 2
      (["h1", "h2"].map fun host => (Teardown.run .default host "Project_t").run)
    have ended : (cleanup.run peer start).1.mapError listed =
        .error [("h1", "failed to delete vlan 'v' on h1 after 3 attempt(s)"),
          ("h2", "failed to list folder in partition Project_t on h2")] := by
      have walked : batch.run peer = batch.walk peer 80 := Batch.run_eq_walk 80 (by decide +kernel)
      simp only [cleanup, Cleanup.undertaking, Undertaking.run]
      change Except.mapError listed (Program.run (Cleanup.conclude "Project_t" [] []
        (["h1", "h2"].zip (batch.run peer).results)).run peer 0 (batch.run peer).surroundings).1 = _
      rw [walked]
      decide +kernel
    obtain ⟨failure, same, known⟩ := exists_of_mapError ended
    cases failure with
    | incomplete failures report =>
        exact ⟨failures, report, same, known, cleanups _ _ _ _ peer start failures report same⟩
    | noAppliances | provisioning | catalog | deletion | fabricCleanup | routeDomain | folder
    | cancelled => cases known

end Tenancy
