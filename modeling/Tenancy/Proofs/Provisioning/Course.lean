import Tenancy.Proofs.Estate.Locality
import Tenancy.Proofs.Fleet.Furnishing
import Tenancy.Proofs.Teardown.Reliability
import Tenancy.Provisioning

/-!
How a tenant's folder is created on hosts in turn. Each host is asked whether it has the folder,
which is created where it is missing, and the first failure is the end; so the hosts are furnished
up to there.
-/

namespace Tenancy

open Estate (Reply)

namespace Provisioning

inductive Goes (tenant partition : String) (payload : Json) :
    List String → List Reply → Except TenantError (List String) → Prop
  | nil : Goes tenant partition payload [] [] (.ok [])
  | present {host hosts replies result} (rest : Goes tenant partition payload hosts replies result) :
      Goes tenant partition payload (host :: hosts)
        (⟨.probe host .folder partition, .ok true⟩ :: replies) result
  | created {host hosts replies result} (resource : Resource)
      (rest : Goes tenant partition payload hosts replies result) :
      Goes tenant partition payload (host :: hosts)
        (⟨.probe host .folder partition, .ok false⟩ ::
          ⟨.create host .folder payload, .ok resource⟩ :: replies)
        (result.map (host :: ·))
  | unprobed (host : String) (hosts : List String) (source : DeviceError) :
      Goes tenant partition payload (host :: hosts)
        [⟨.probe host .folder partition, .error source⟩]
        (.error (.provisioning tenant host source))
  | uncreated (host : String) (hosts : List String) (source : DeviceError) :
      Goes tenant partition payload (host :: hosts)
        [⟨.probe host .folder partition, .ok false⟩,
          ⟨.create host .folder payload, .error source⟩]
        (.error (.provisioning tenant host source))

section

variable {naming : Naming} {service : Service} {trafficGroup host : String} {hosts : List String}
  {trail : Trail Backend}

theorem assureOn_cases {result : Except TenantError Bool}
    (taken : Program.Yields (assureOn naming service trafficGroup host).run trail result) :
    let partition := naming.folderName service.tenant
    let payload := naming.descriptor service trafficGroup
    trail = [.asked (.probe host .folder partition) (.ok true)] ∧ result = .ok false ∨
    (∃ resource, trail = [.asked (.probe host .folder partition) (.ok false),
      .asked (.create host .folder payload) (.ok resource)] ∧ result = .ok true) ∨
    (∃ source, trail = [.asked (.probe host .folder partition) (.error source)] ∧
      result = .error (.provisioning service.tenant host source)) ∨
    ∃ source, trail = [.asked (.probe host .folder partition) (.ok false),
      .asked (.create host .folder payload) (.error source)] ∧
      result = .error (.provisioning service.tenant host source) := by
  intro partition payload
  rw [assureOn, Action.yields_ask_bind_iff] at taken
  obtain ⟨answer, later, rfl, taken⟩ := taken
  rcases answer with source | _ | _
  case error =>
    obtain ⟨rfl, rfl⟩ := taken
    exact .inr (.inr (.inl ⟨source, rfl, rfl⟩))
  case ok.true =>
    obtain ⟨rfl, rfl⟩ := Action.yields_note_bind_iff.mp taken
    exact .inl ⟨rfl, rfl⟩
  case ok.false =>
    obtain ⟨answer, last, rfl, goes⟩ := Action.yields_ask_bind_iff.mp taken
    cases answer with
    | error source =>
        obtain ⟨rfl, rfl⟩ := Action.yields_note_bind_iff.mp goes
        exact .inr (.inr (.inr ⟨source, rfl, rfl⟩))
    | ok resource =>
        obtain ⟨rfl, rfl⟩ := Action.yields_note_bind_iff.mp goes
        exact .inr (.inl ⟨resource, rfl, rfl⟩)

theorem assureEach_goes {result : Except TenantError (List String)}
    (taken : Program.Yields (assureEach naming service trafficGroup hosts).run trail result) :
    Goes service.tenant (naming.folderName service.tenant)
      (naming.descriptor service trafficGroup) hosts trail.answers result := by
  induction hosts generalizing trail result with
  | nil =>
      obtain ⟨rfl, rfl⟩ := taken
      exact .nil
  | cons host hosts ih =>
      rw [assureEach] at taken
      obtain ⟨failure, ends, rfl⟩ | ⟨created, first, second, rfl, ends, goes⟩ :=
        Action.yields_bind_iff.mp taken
      · obtain ⟨-, same⟩ | ⟨_, -, same⟩ | ⟨source, rfl, same⟩ | ⟨source, rfl, same⟩ :=
          assureOn_cases ends
        · cases same
        · cases same
        · cases same
          exact .unprobed host hosts source
        · cases same
          exact .uncreated host hosts source
      · have rest : ∃ others, Program.Yields (assureEach naming service trafficGroup hosts).run
            second others ∧ result = others.map fun others =>
              if created then host :: others else others := by
          obtain ⟨failure, ends, rfl⟩ | ⟨others, part, _, rfl, ends, rfl, rfl⟩ :=
            Action.yields_bind_iff.mp goes
          · exact ⟨.error failure, ends, rfl⟩
          · rw [List.append_nil]
            exact ⟨.ok others, ends, rfl⟩
        obtain ⟨others, part, rfl⟩ := rest
        obtain ⟨rfl, same⟩ | ⟨resource, rfl, same⟩ | ⟨_, -, same⟩ | ⟨_, -, same⟩ :=
          assureOn_cases ends
        · obtain rfl := Except.ok.inj same
          have kept : others.map (fun others => if false then host :: others else others) =
              others := by
            cases others <;> rfl
          rw [kept]
          exact .present (ih part)
        · obtain rfl := Except.ok.inj same
          exact .created resource (ih part)
        · cases same
        · cases same

end

end Provisioning

def Estate.Reply.created? : Reply → Option String
  | ⟨.create host .., .ok _⟩ => some host
  | _ => none

namespace Provisioning

open Fleet

variable {tenant partition : String} {payload : Json} {hosts : List String} {replies : List Reply}
  {result : Except TenantError (List String)} {estate : Estate}

theorem Goes.created_eq (goes : Goes tenant partition payload hosts replies result)
    {created : List String} (ok : result = .ok created) :
    created = replies.filterMap Reply.created? := by
  induction goes generalizing created with
  | nil => exact (Except.ok.inj ok).symm
  | present rest ih => exact ih ok
  | @created host _ _ result _ rest ih =>
      cases result with
      | error failure => cases ok
      | ok others =>
          obtain rfl := Except.ok.inj ok
          exact congrArg (host :: ·) (ih rfl)
  | unprobed => cases ok
  | uncreated => cases ok

theorem Goes.furnishes (goes : Goes tenant partition payload hosts replies result)
    (named : Request.payloadName payload = partition) (told : estate.Tells replies) :
    ∃ done, done <+: hosts ∧ (result.isOk → done = hosts) ∧
      (estate.after replies).fleet = furnishAll partition done estate.fleet ∧
      replies.filterMap Reply.created? = lacking partition done estate.fleet := by
  induction goes generalizing estate with
  | nil => exact ⟨[], List.nil_prefix, fun _ => rfl, rfl, rfl⟩
  | @present host hosts replies result rest ih =>
      obtain ⟨answer, told⟩ := told
      have there := of_decide_eq_true (Estate.respond_probe answer.symm).symm
      have same := Estate.respond_probe_fleet host partition .folder estate
      obtain ⟨done, early, all, fleet, made⟩ := ih told
      rw [same] at fleet made
      refine ⟨host :: done, (List.prefix_cons_inj host).mpr early,
        fun ok => congrArg (host :: ·) (all ok), ?_, ?_⟩
      · rw [furnishAll, furnish_of_mem there]
        exact fleet
      · rw [lacking_cons_of_mem there]
        exact made
  | @created host hosts replies result resource rest ih =>
      obtain ⟨answer, created, told⟩ := told
      have missing := of_decide_eq_false (Estate.respond_probe answer.symm).symm
      have same := Estate.respond_probe_fleet host partition .folder estate
      have furnished := Estate.respond_create created.symm
      rw [same, named, ← furnish_of_not_mem missing] at furnished
      obtain ⟨done, early, all, fleet, made⟩ := ih told
      rw [furnished] at fleet made
      refine ⟨host :: done, (List.prefix_cons_inj host).mpr early, fun ok => ?_, fleet, ?_⟩
      · cases result with
        | error failure => cases ok
        | ok others => exact congrArg (host :: ·) (all rfl)
      · rw [lacking_cons_of_not_mem missing]
        exact congrArg (host :: ·) made
  | unprobed host hosts source =>
      have same := Estate.respond_probe_fleet host partition .folder estate
      exact ⟨[], List.nil_prefix, (absurd · Bool.false_ne_true), same, rfl⟩
  | uncreated host hosts source =>
      obtain ⟨-, failed, -⟩ := told
      have same := Estate.respond_probe_fleet host partition .folder estate
      exact ⟨[], List.nil_prefix, (absurd · Bool.false_ne_true),
        (Estate.respond_create_of_error failed.symm).trans same, rfl⟩

theorem Goes.only_probes (goes : Goes tenant partition payload hosts replies result)
    (there : ∀ host ∈ hosts, partition ∈ (estate.fleet.host host).folders)
    (told : estate.Tells replies) : ∀ reply ∈ replies, reply.1.operation = .probe := by
  induction goes generalizing estate with
  | nil => exact List.forall_mem_nil _
  | @present host hosts replies result rest ih =>
      rw [List.forall_mem_cons] at there ⊢
      rw [← Estate.respond_probe_fleet host partition .folder estate] at there
      exact ⟨rfl, ih there.2 told.2⟩
  | created | uncreated =>
      obtain ⟨answer, -⟩ := told
      have missing := of_decide_eq_false (Estate.respond_probe answer.symm).symm
      exact absurd (there _ List.mem_cons_self) missing
  | unprobed => exact List.forall_mem_singleton.mpr rfl

theorem Goes.ok (goes : Goes tenant partition payload hosts replies result)
    (complied : ∀ reply ∈ replies, reply.1.complied reply.2) : result.isOk := by
  induction goes with
  | nil => rfl
  | present rest ih => exact ih (List.forall_mem_cons.mp complied).2
  | @created _ _ _ result _ rest ih =>
      have later := (List.forall_mem_cons.mp (List.forall_mem_cons.mp complied).2).2
      have ok := ih later
      cases result with
      | error failure => cases ok
      | ok others => rfl
  | unprobed host hosts source => cases complied _ List.mem_cons_self
  | uncreated host hosts source => cases complied _ (List.mem_cons_of_mem _ List.mem_cons_self)

end Provisioning

end Tenancy
