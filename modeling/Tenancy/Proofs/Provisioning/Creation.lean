import Tenancy.Proofs.Provisioning.Course

/-!
Creations of a tenant's folder, one after another and whatever faults they meet. One that fails
leaves what it did, and the next one goes on from there; no host is given the folder twice.
-/

namespace Tenancy.Provisioning

open Estate (Reply)
open Fleet

/-- One creation for a service, with all that is given anew for it. What one creation leaves to the
next is the fleet alone: the clock, the signal and the faults that strike may be anything. -/
structure Creation where
  naming : Naming
  settings : Settings
  service : Service
  raiseOnCall : Option Nat
  latencies : List (String × Nat)
  faults : List Fault
  now : Nat
  signal : Option Signal
  moments : List Moment

namespace Creation

def partition (creation : Creation) : String :=
  creation.naming.folderName creation.service.tenant

def trafficGroup (creation : Creation) : String :=
  creation.settings.trafficGroup creation.service

def payload (creation : Creation) : Json :=
  creation.naming.descriptor creation.service creation.trafficGroup

def estate (creation : Creation) (fleet : Fleet) : Estate :=
  ⟨fleet, creation.latencies, creation.faults⟩

def surroundings (creation : Creation) (fleet : Fleet) : Surroundings Backend Estate :=
  ⟨creation.estate fleet, creation.now, creation.signal, creation.moments, [], []⟩

def run (creation : Creation) (fleet : Fleet) :
    Except TenantError Provisioned × Surroundings Backend Estate :=
  Program.run (assureCreated creation.naming creation.settings creation.service).run
    (Estate.peer creation.raiseOnCall) 0 (creation.surroundings fleet)

def replies (creation : Creation) (fleet : Fleet) : List Reply :=
  ((creation.run fleet).2.exchanges.map Exchange.reply).reverse

def made (creation : Creation) (fleet : Fleet) : List String :=
  (creation.replies fleet).filterMap Reply.created?

def fleetAfter (creation : Creation) (fleet : Fleet) : Fleet :=
  (creation.run fleet).2.state.fleet

structure Provisions (creation : Creation) (fleet : Fleet) : Prop where
  calls : ∃ outcome,
    (creation.run fleet).1 =
      outcome.map (Provisioned.mk creation.partition creation.trafficGroup) ∧
    Goes creation.service.tenant creation.partition creation.payload creation.service.hosts
      (creation.replies fleet) outcome
  named : Request.payloadName creation.payload = creation.partition
  grouped : creation.payload.member? "trafficGroup" = some (.string creation.trafficGroup)
  created : ∀ provisioned, (creation.run fleet).1 = .ok provisioned →
    provisioned.created = creation.made fleet ∧ provisioned.created.Nodup ∧
    provisioned.created = lacking creation.partition creation.service.hosts fleet
  changed : ∀ provisioned, (creation.run fleet).1 = .ok provisioned →
    (∀ host ∈ creation.service.hosts,
      creation.partition ∈ ((creation.fleetAfter fleet).host host).folders) ∧
    ∀ host, (creation.fleetAfter fleet).host host =
      if host ∈ provisioned.created then
        ⟨(fleet.host host).folders ++ [creation.partition], (fleet.host host).objects⟩
      else fleet.host host

variable {creation : Creation} {fleet : Fleet}

theorem since (creation : Creation) (fleet : Fleet) :
    (creation.run fleet).2.Since (Estate.peer creation.raiseOnCall) (creation.estate fleet) := by
  have fresh : (creation.surroundings fleet).Since (Estate.peer creation.raiseOnCall)
      (creation.estate fleet) := ⟨rfl, trivial⟩
  exact fresh.run _ 0

theorem tells (creation : Creation) (fleet : Fleet) :
    (creation.estate fleet).Tells (creation.replies fleet) :=
  (Estate.tells_of_since (creation.since fleet)).1

theorem fleetAfter_eq (creation : Creation) (fleet : Fleet) :
    creation.fleetAfter fleet = ((creation.estate fleet).after (creation.replies fleet)).fleet :=
  congrArg Estate.fleet (Estate.tells_of_since (creation.since fleet)).2

theorem goes (backed : creation.service.appliances ≠ []) (fleet : Fleet) :
    ∃ outcome,
      (creation.run fleet).1 =
        outcome.map (Provisioned.mk creation.partition creation.trafficGroup) ∧
      Goes creation.service.tenant creation.partition creation.payload creation.service.hosts
        (creation.replies fleet) outcome := by
  let program := (assureCreated creation.naming creation.settings creation.service).run
  let peer := Estate.peer creation.raiseOnCall
  have taken := program.yields_trail peer 0 (creation.surroundings fleet)
  have answers := program.trail_answers peer 0 (creation.surroundings fleet) rfl
  have inhabited : ¬ creation.service.appliances.isEmpty := by simpa using backed
  change Program.Yields (assureCreated _ _ _).run _ (creation.run fleet).1 at taken
  rw [assureCreated, if_neg inhabited, Action.yields_note_bind_iff] at taken
  rw [replies]
  obtain ⟨failure, ends, same⟩ | ⟨created, first, _, cut, ends, rfl, same⟩ :=
    Action.yields_bind_iff.mp taken
  · refine ⟨.error failure, same, ?_⟩
    have goes := assureEach_goes ends
    rwa [answers] at goes
  · refine ⟨.ok created, same.symm, ?_⟩
    rw [List.append_nil] at cut
    have goes := assureEach_goes ends
    rwa [← cut, answers] at goes

theorem furnishes (backed : creation.service.appliances ≠ []) (fleet : Fleet) :
    ∃ done, done <+: creation.service.hosts ∧
      ((creation.run fleet).1.isOk → done = creation.service.hosts) ∧
      creation.fleetAfter fleet = furnishAll creation.partition done fleet ∧
      creation.made fleet = lacking creation.partition done fleet := by
  obtain ⟨outcome, same, goes⟩ := creation.goes backed fleet
  obtain ⟨done, early, all, furnished, made⟩ := goes.furnishes rfl (creation.tells fleet)
  refine ⟨done, early, fun ok => all ?_, (creation.fleetAfter_eq fleet).trans furnished, made⟩
  rw [same] at ok
  cases outcome with
  | error failure => cases ok
  | ok created => rfl

theorem provisions (backed : creation.service.appliances ≠ []) (fleet : Fleet) :
    creation.Provisions fleet := by
  have goes := creation.goes backed fleet
  obtain ⟨done, -, all, after, made⟩ := creation.furnishes backed fleet
  have created (provisioned) (ok : (creation.run fleet).1 = .ok provisioned) :
      provisioned.created = creation.made fleet ∧
        provisioned.created = lacking creation.partition creation.service.hosts fleet := by
    obtain ⟨outcome, same, taken⟩ := goes
    rw [same] at ok
    cases outcome with
    | error failure => cases ok
    | ok created =>
        obtain rfl := Except.ok.inj ok
        have own : created = creation.made fleet := taken.created_eq rfl
        obtain rfl := all (by rw [same]; rfl)
        exact ⟨own, own.trans made⟩
  refine ⟨goes, rfl, by simp [payload, Naming.descriptor, Json.member?, List.lookup_cons], ?_, ?_⟩
  · intro provisioned ok
    obtain ⟨own, missing⟩ := created provisioned ok
    exact ⟨own, missing ▸ nodup_lacking, missing⟩
  · intro provisioned ok
    rw [after, all (by rw [ok]; rfl), (created provisioned ok).2]
    refine ⟨fun host inside => mem_folders_furnishAll.mpr (.inr inside), fun host => ?_⟩
    rw [host_furnishAll]
    by_cases there : creation.partition ∈ (fleet.host host).folders
    · rw [if_neg fun listed => (mem_lacking.mp listed).2 there, Host.addFolder_of_mem there,
        ite_self]
    · by_cases inside : host ∈ creation.service.hosts
      · rw [if_pos inside, if_pos (mem_lacking.mpr ⟨inside, there⟩)]
        exact if_neg there
      · rw [if_neg inside, if_neg fun listed => inside (mem_lacking.mp listed).1]

theorem ok_of_faultless (backed : creation.service.appliances ≠ []) (faultless : creation.faults = [])
    (fleet : Fleet) : (creation.run fleet).1.isOk := by
  obtain ⟨outcome, same, goes⟩ := creation.goes backed fleet
  have complied : ∀ reply ∈ creation.replies fleet, reply.1.complied reply.2 := by
    intro reply member
    obtain ⟨exchange, recorded, rfl⟩ := List.mem_map.mp (List.mem_reverse.mp member)
    exact Estate.answered_complied (creation.since fleet).answered faultless exchange recorded
  have ok := goes.ok complied
  rw [same]
  cases outcome with
  | error failure => cases ok
  | ok created => rfl

theorem furnishes_of_faultless (backed : creation.service.appliances ≠ [])
    (faultless : creation.faults = []) (fleet : Fleet) :
    (creation.run fleet).1 = .ok ⟨creation.partition, creation.trafficGroup,
      lacking creation.partition creation.service.hosts fleet⟩ ∧
    creation.fleetAfter fleet =
      furnishAll creation.partition creation.service.hosts fleet := by
  have ok := creation.ok_of_faultless backed faultless fleet
  obtain ⟨done, -, all, after, -⟩ := creation.furnishes backed fleet
  rw [after, all ok]
  obtain ⟨outcome, same, -⟩ := creation.goes backed fleet
  rw [same] at ok ⊢
  cases outcome with
  | error failure => cases ok
  | ok created =>
      obtain ⟨-, -, listed⟩ := (creation.provisions backed fleet).created _ same
      obtain rfl : created = lacking creation.partition creation.service.hosts fleet := listed
      exact ⟨rfl, rfl⟩

def series : List Creation → Fleet → List (Creation × Fleet)
  | [], _ => []
  | creation :: creations, fleet =>
      (creation, fleet) :: series creations (creation.fleetAfter fleet)

def leave : List Creation → Fleet → Fleet
  | [], fleet => fleet
  | creation :: creations, fleet => leave creations (creation.fleetAfter fleet)

variable {naming : Naming} {service : Service} {creations further : List Creation}
  {clean first : Creation}

theorem furnishAll_leave (backed : service.appliances ≠ [])
    (one : ∀ creation ∈ creations, creation.naming = naming ∧ creation.service = service) :
    furnishAll (naming.folderName service.tenant) service.hosts (leave creations fleet) =
      furnishAll (naming.folderName service.tenant) service.hosts fleet := by
  induction creations generalizing fleet with
  | nil => rfl
  | cons creation creations ih =>
      rw [List.forall_mem_cons] at one
      obtain ⟨⟨rfl, rfl⟩, others⟩ := one
      obtain ⟨done, early, -, after, -⟩ := creation.furnishes backed fleet
      rw [leave, ih others, after]
      exact furnishAll_furnishAll early

theorem made_series (backed : service.appliances ≠ [])
    (one : ∀ creation ∈ creations, creation.naming = naming ∧ creation.service = service) :
    let made := (series creations fleet).flatMap fun entry => entry.1.made entry.2
    made.Nodup ∧
      ∀ host ∈ made, naming.folderName service.tenant ∉ (fleet.host host).folders := by
  induction creations generalizing fleet with
  | nil => exact ⟨List.nodup_nil, List.forall_mem_nil _⟩
  | cons creation creations ih =>
      rw [List.forall_mem_cons] at one
      obtain ⟨⟨rfl, rfl⟩, others⟩ := one
      obtain ⟨done, -, -, after, made⟩ := creation.furnishes backed fleet
      obtain ⟨distinct, missing⟩ := @ih (creation.fleetAfter fleet) others
      rw [after] at distinct missing
      rw [series, List.flatMap_cons, after, made]
      constructor
      · refine List.nodup_append.mpr ⟨nodup_lacking, distinct, ?_⟩
        rintro host own _ later rfl
        exact missing host later (mem_folders_furnishAll.mpr (.inr (mem_lacking.mp own).1))
      · intro host member
        obtain own | later := List.mem_append.mp member
        · exact (mem_lacking.mp own).2
        · exact fun there => missing host later (mem_folders_furnishAll.mpr (.inl there))

theorem series_settled (backed : service.appliances ≠ [])
    (one : ∀ creation ∈ creations, creation.naming = naming ∧ creation.service = service)
    (there : ∀ host ∈ service.hosts,
      naming.folderName service.tenant ∈ (fleet.host host).folders) :
    ∀ entry ∈ series creations fleet,
      (∀ reply ∈ entry.1.replies entry.2, reply.1.operation = .probe) ∧
      entry.1.fleetAfter entry.2 = fleet ∧
      (∀ provisioned, (entry.1.run entry.2).1 = .ok provisioned → provisioned.created = []) ∧
      (entry.1.faults = [] → (entry.1.run entry.2).1.isOk) := by
  induction creations with
  | nil => exact List.forall_mem_nil _
  | cons creation creations ih =>
      rw [List.forall_mem_cons] at one
      obtain ⟨⟨rfl, rfl⟩, others⟩ := one
      obtain ⟨outcome, -, goes⟩ := creation.goes backed fleet
      obtain ⟨done, early, -, after, -⟩ := creation.furnishes backed fleet
      have same : creation.fleetAfter fleet = fleet :=
        after.trans (furnishAll_of_mem fun host inside => there host (early.subset inside))
      rw [series, List.forall_mem_cons, same]
      refine ⟨⟨goes.only_probes there (creation.tells fleet), rfl, ?_, ?_⟩, ih others⟩
      · intro provisioned ok
        rw [((creation.provisions backed fleet).created provisioned ok).2.2]
        exact lacking_of_mem there
      · exact fun faultless => creation.ok_of_faultless backed faultless fleet

theorem fst_mem_of_series : ∀ entry ∈ series creations fleet, entry.1 ∈ creations := by
  induction creations generalizing fleet with
  | nil => exact List.forall_mem_nil _
  | cons creation creations ih =>
      rw [series, List.forall_mem_cons]
      exact ⟨List.mem_cons_self, fun entry member => List.mem_cons_of_mem _ (ih entry member)⟩

/-- Each creation provisions what is missing until a call fails. However a series of them goes, one
that meets no faults succeeds after it and leaves the fleet that it would have left at once; the
folder is created at most once on each host, and afterwards nothing is created. -/
theorem creations_resume (backed : service.appliances ≠ [])
    (one : ∀ creation ∈ clean :: first :: creations ++ further,
      creation.naming = naming ∧ creation.service = service)
    (faultless : clean.faults = []) (atOnce : first.faults = []) :
    let settled := clean.fleetAfter (leave creations fleet)
    let whole := series (creations ++ clean :: further) fleet
    (∀ entry ∈ whole, entry.1.Provisions entry.2) ∧
    (clean.run (leave creations fleet)).1.isOk ∧
    settled = first.fleetAfter fleet ∧
    (whole.flatMap fun entry => entry.1.made entry.2).Nodup ∧
    ∀ entry ∈ series further settled,
      (∀ reply ∈ entry.1.replies entry.2, reply.1.operation = .probe) ∧
      entry.1.fleetAfter entry.2 = settled ∧
      (∀ provisioned, (entry.1.run entry.2).1 = .ok provisioned → provisioned.created = []) ∧
      (entry.1.faults = [] → (entry.1.run entry.2).1.isOk) := by
  intro settled whole
  simp only [List.cons_append, List.forall_mem_cons, List.forall_mem_append] at one
  obtain ⟨⟨rfl, rfl⟩, ⟨sameNaming, sameService⟩, earlier, later⟩ := one
  have all : ∀ creation ∈ creations ++ clean :: further,
      creation.naming = clean.naming ∧ creation.service = clean.service := by
    rw [List.forall_mem_append, List.forall_mem_cons]
    exact ⟨earlier, ⟨rfl, rfl⟩, later⟩
  have complete : settled = furnishAll clean.partition clean.service.hosts fleet := by
    have last := (clean.furnishes_of_faultless backed faultless (leave creations fleet)).2
    exact last.trans (furnishAll_leave backed earlier)
  refine ⟨?_, clean.ok_of_faultless backed faultless _, ?_, (made_series backed all).1, ?_⟩
  · intro entry member
    obtain ⟨-, same⟩ := all entry.1 (fst_mem_of_series entry member)
    exact entry.1.provisions (same ▸ backed) entry.2
  · rw [complete, (first.furnishes_of_faultless (sameService ▸ backed) atOnce fleet).2]
    rw [partition, partition, sameNaming, sameService]
  · refine series_settled backed later fun host inside => ?_
    rw [complete]
    exact mem_folders_furnishAll.mpr (.inr inside)

def sparseFleet : Fleet := ⟨[("h2", ⟨["Project_t", "Common"], []⟩)]⟩

def creationWith (faults : List Fault) : Creation :=
  ⟨.default, .default, ⟨"t", none, [⟨"h1"⟩, ⟨"h2"⟩, ⟨"h1"⟩, ⟨"h3"⟩]⟩, none, [], faults, 0, none,
    []⟩

def refusal (host : String) : Fault :=
  ⟨.create, host, none, none, none, 0, some 1, ⟨.other, "busy", none, none, none⟩, false⟩

theorem creations_resume_sparseFleet :
    let failed := creationWith [refusal "h3"]
    let clean := creationWith []
    (failed.run sparseFleet).1.isOk = false ∧
      clean.service.appliances ≠ [] ∧ clean.faults = [] ∧
      clean.fleetAfter (failed.fleetAfter sparseFleet) = clean.fleetAfter sparseFleet := by
  intro failed clean
  have backed : clean.service.appliances ≠ [] := by decide
  have one : ∀ creation ∈ clean :: clean :: [failed] ++ [clean],
      creation.naming = clean.naming ∧ creation.service = clean.service := by decide
  have resumed : clean.fleetAfter (leave [failed] sparseFleet) = clean.fleetAfter sparseFleet :=
    (creations_resume backed one rfl rfl).2.2.1
  exact ⟨by decide +kernel, backed, rfl, resumed⟩

end Creation

end Tenancy.Provisioning
