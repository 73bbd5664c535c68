import Tenancy.Proofs.Teardown.Halting

/-!
When a teardown offers ports for release: in its first stage only, which no deletion comes before.
There it lists both kinds of objects that hold ports, and offers the port of each object listed, in
the order of the listing, once. A kind that cannot be listed is passed over.
-/

namespace Tenancy.Teardown

open Tenancy.Action

def shown : Except DeviceError (List Resource) → List Resource
  | .ok resources => resources
  | .error _ => []

variable {policy : RetryPolicy} {host partition : String} {trail : Trail Backend}
  {result : Except TenantError Outcome}

/-- A teardown that comes to its ports offers those of the snat translations, then those of the
self ips, and none later. -/
inductive PortPhase (host partition : String) : Trail Backend → Prop
  | mk (domains) {translations addresses first second rest}
      (early : Offered (shown translations) first) (late : Offered (shown addresses) second)
      (silent : ∀ port answer, .asked (.releasePort port) answer ∉ rest) :
      PortPhase host partition
        (opening host partition domains ++
          .asked (.list host .snatTranslation partition) translations ::
            (first ++ .asked (.list host .selfIp partition) addresses :: (second ++ rest)))

structure OffersPorts (host partition : String) (trail : Trail Backend) : Prop where
  phase : ∀ domains, opening host partition domains <+: trail → PortPhase host partition trail
  only : (∀ domains, ¬ opening host partition domains <+: trail) →
    ∀ port answer, .asked (.releasePort port) answer ∉ trail
  early : ∀ before after target resource answer,
    trail = before ++ .asked (.delete target resource) answer :: after →
      ∀ port given, .asked (.releasePort port) given ∉ after

theorem passed_of_stage {stage : Stage} {place : Nat} (here : Stage.course[place]? = some stage)
    (found : trail.stage? = some stage) : trail.passed = place + 1 := by
  have distinct : Stage.course.Nodup := by decide
  rw [Trail.stage?] at found
  generalize trail.passed = passed at found ⊢
  cases passed with
  | zero => cases found
  | succ other =>
      obtain ⟨within, -⟩ := List.getElem?_eq_some_iff.mp here
      rw [(List.getElem?_inj within distinct).mp (here.trans found.symm)]

theorem passed_of_port {port : String}
    (asked : (run policy host partition).Asks trail (.releasePort port)) : trail.passed = 1 := by
  have belongs := run_belongs asked rfl
  generalize stage : trail.stage? = stage at belongs
  cases belongs
  exact passed_of_stage rfl stage

theorem passed_of_delete {target : String} {resource : Resource}
    (asked : (run policy host partition).Asks trail (.delete target resource)) :
    1 < trail.passed := by
  have belongs := run_belongs asked rfl
  rw [Trail.stage?] at belongs
  generalize trail.passed = passed at belongs
  rcases passed with _ | _ | place
  · cases belongs
  · cases belongs
  · omega

theorem no_port_late {before after : Trail Backend}
    (taken : Program.Yields (run policy host partition).run (before ++ after) result)
    (late : 1 < before.passed) (port : String) (answer : Except CallbackError Unit) :
    .asked (.releasePort port) answer ∉ after := by
  intro member
  obtain ⟨middle, last, rfl⟩ := List.append_of_mem member
  rw [← List.append_assoc] at taken
  have passed := passed_of_port taken.asks
  rw [Trail.passed_append] at passed
  omega

theorem PortsOffered.head {kind : Kind} {kinds : List Kind}
    (offered : PortsOffered host partition (kind :: kinds) trail) :
    ∃ answer first rest, Offered (shown answer) first ∧ PortsOffered host partition kinds rest ∧
      trail = .asked (.list host kind partition) answer :: (first ++ rest) := by
  cases offered with
  | listed offered later => exact ⟨.ok _, _, _, offered, later, rfl⟩
  | unlisted later => exact ⟨.error _, [], _, .nil, later, rfl⟩

theorem not_releasePorts_fails {kinds : List Kind} {failure : TenantError} :
    ¬ Program.Yields (releasePorts host partition kinds).run trail (.error failure) := by
  have steady : (releasePorts host partition kinds).Steady (fun _ => True) fun _ => False :=
    releasePorts_steady
  exact fun fails => (steady.conduct fails fun _ _ => trivial).fails failure rfl

theorem opens_of_opening {domains : List Resource} {later : Trail Backend}
    (taken : Program.Yields (run policy host partition).run
      (opening host partition domains ++ later) result) :
    Program.Yields (dismantle policy host partition (domains.map (·.name))).run
      (.looked false :: later) result := by
  obtain ⟨own, rest, same, goes⟩ | gated := run_opens taken
  · cases same
    exact goes
  · generalize same : opening host partition domains ++ later = trail at gated
    cases gated <;> simp [opening] at same

theorem run_phase {domains : List Resource} {later : Trail Backend}
    (taken : Program.Yields (run policy host partition).run
      (opening host partition domains ++ later) result) :
    PortPhase host partition (opening host partition domains ++ later) := by
  have goes := opens_of_opening taken
  rw [dismantle, yields_checkpoint_bind_iff] at goes
  obtain ⟨none, -⟩ | ⟨_, same, goes⟩ := goes
  · cases none
  cases same
  obtain ⟨failure, fails, -⟩ | ⟨_, ports, rest, rfl, offered, goes⟩ := yields_bind_iff.mp goes
  · exact (not_releasePorts_fails fails).elim
  have silent (port : String) (answer : Except CallbackError Unit) :
      .asked (.releasePort port) answer ∉ rest := by
    obtain ⟨rfl, -⟩ | ⟨after, rfl, -⟩ := yields_checkpoint_bind_iff.mp goes
    · simp
    · have whole : opening host partition domains ++ (ports ++ .looked false :: after) =
          (opening host partition domains ++ (ports ++ [.looked false])) ++ after := by simp
      have first : (opening host partition domains).passed = 1 := rfl
      have second : Trail.passed (I := Backend) [.looked false] = 1 := rfl
      rw [whole] at taken
      simpa using no_port_late taken (by simp only [Trail.passed_append]; omega) port answer
  obtain ⟨translations, first, _, early, others, rfl⟩ :=
    (releasePorts_succeeds_iff.mp offered).head
  obtain ⟨addresses, second, _, late, ⟨⟩, rfl⟩ := others.head
  have phase : PortPhase host partition _ := .mk domains early late silent
  simpa using phase

/-- All ports are offered that are to be offered, once and in time. -/
theorem run_offers (taken : Program.Yields (run policy host partition).run trail result) :
    OffersPorts host partition trail where
  phase := by
    rintro domains ⟨later, rfl⟩
    exact run_phase taken
  only shut port answer member := by
    obtain ⟨domains, later, same, -⟩ | gated := run_yields taken
    · exact shut domains ⟨later, same.symm⟩
    · exact Bool.noConfusion (gated.reads _ member)
  early before after target resource answer cut port given := by
    rw [cut] at taken
    have deleted := passed_of_delete taken.asks
    rw [List.append_cons] at taken
    exact no_port_late taken (by rw [Trail.passed_append]; omega) port given

end Tenancy.Teardown
