import Tenancy.Proofs.DeviceApi.Relay
import Tenancy.Proofs.DeviceApi.Server
import Tenancy.Proofs.Provisioning

/-!
The appliances' API over HTTP keeps the contract of the appliances: a manager that is asked to create
and to clean up partitions does the same over a server as on the estate that it serves.
-/

namespace Tenancy

open Text (IsWord)
open Web (IsHost IsScheme Response)
open DeviceApi (Access Fits RunsMirror Serves relay)

/-- What a manager is asked to do. A cleanup ends with its first failure. -/
inductive Errand
  | create (service : Service)
  | clean (service : Service)

namespace Errand

abbrev Result := Except TenantError (Provisioned ⊕ Report)

def service : Errand → Service
  | create service => service
  | clean service => service

def undertaking (naming : Naming) (settings : Settings) :
    Errand → Undertaking Backend (Except TenantError Outcome) Result
  | create service => .alone (Sum.inl <$> Provisioning.assureCreated naming settings service).run
  | clean service =>
      (Cleanup.ofService naming settings.retry service .abortOnFirstFailure).andThen
        fun result => .done (result.map .inr)

def runAll {I : Interface} {σ : Type} (naming : Naming) (settings : Settings) (client : Client I)
    (peer : Peer I σ) : List Errand → Surroundings I σ → List Result × Surroundings I σ
  | [], surroundings => ([], surroundings)
  | errand :: errands, surroundings =>
      let (result, after) := ((errand.undertaking naming settings).via client).run peer surroundings
      let (results, last) := runAll naming settings client peer errands after
      (result :: results, last)

def action (naming : Naming) (settings : Settings) : Errand → Action (Provisioned ⊕ Report)
  | create service => Sum.inl <$> Provisioning.assureCreated naming settings service
  | clean service => Sum.inr <$> Report.mk <$>
      Cleanup.inTurn settings.retry (naming.folderName service.tenant) service.hosts

variable {naming : Naming} {settings : Settings}

theorem undertaking_eq (errand : Errand) :
    errand.undertaking naming settings = .alone (errand.action naming settings).run := by
  cases errand with
  | create service => rfl
  | clean service => exact congrArg Undertaking.alone (Action.run_map _ _).symm

/-- The errand is for a tenant whose folder's name is a word, on valid hosts. -/
def IsPlain (naming : Naming) (scheme : String) (errand : Errand) : Prop :=
  IsWord (naming.folderName errand.service.tenant) ∧
    ∀ host ∈ errand.service.hosts, IsHost scheme host

theorem action_alike {tolerance : Tolerance} (errand : Errand) :
    Action.Alike tolerance (errand.action naming settings) (errand.action naming settings) := by
  cases errand with
  | create service =>
      rw [action, ← bind_pure_comp]
      exact (Provisioning.assureCreated_alike settings).bind fun _ => Action.alike_pure _
  | clean service =>
      rw [action, ← bind_pure_comp, ← bind_pure_comp]
      exact ((Cleanup.inTurn_alike service.hosts).bind fun _ => Action.alike_pure _).bind
        fun _ => Action.alike_pure _

variable {scheme : String} {aliases : List String}

theorem action_keeps {errand : Errand} (plain : errand.IsPlain naming scheme) :
    (errand.action naming settings).Keeps (Request.words scheme aliases) fun _ => True := by
  obtain ⟨word, valid⟩ := plain
  cases errand with
  | create service =>
      rw [action, ← bind_pure_comp]
      exact (Provisioning.assureCreated_keeps settings word valid).bind
        fun _ _ => Action.keeps_pure trivial
  | clean service =>
      have reports : (Report.mk <$> Cleanup.inTurn settings.retry (naming.folderName service.tenant)
          service.hosts).Keeps (Request.words scheme aliases) fun _ => True := by
        rw [← bind_pure_comp]
        exact (Cleanup.inTurn_keeps word valid).bind fun _ _ => Action.keeps_pure trivial
      rw [action, ← bind_pure_comp]
      exact reports.bind fun _ _ => Action.keeps_pure trivial

variable {τ : Type} {access : Access} {raiseOnCall : Option Nat}
  {view : τ → Estate} {server : Peer Uplink τ}
  {here : Surroundings Backend Estate} {there : Surroundings Uplink τ}

theorem run_eq {I : Interface} {σ : Type} (errand : Errand) (client : Client I) (peer : Peer I σ)
    (surroundings : Surroundings I σ) :
    ((errand.undertaking naming settings).via client).run peer surroundings =
      ((errand.action naming settings).run.via client).run peer 0 surroundings := by
  rw [undertaking_eq]
  rfl

theorem exchanges_subset_runAll {I : Interface} {σ : Type} (client : Client I) (peer : Peer I σ)
    (errands : List Errand) (surroundings : Surroundings I σ) :
    surroundings.exchanges ⊆ (runAll naming settings client peer errands surroundings).2.exchanges := by
  induction errands generalizing surroundings with
  | nil => exact List.Subset.refl _
  | cons errand errands ih =>
      have own := Program.exchanges_subset_run ((errand.action naming settings).run.via client) peer 0
        surroundings
      rw [← run_eq] at own
      exact List.Subset.trans own (ih _)

theorem run_mirrors (web : IsScheme access.scheme)
    (serves : Serves access.scheme aliases raiseOnCall view server) {errand : Errand}
    (words : errand.IsPlain naming access.scheme) (mirrors : Mirrors view here there)
    (plain : here.state.IsPlain aliases)
    (fits : ∀ exchange ∈ (((errand.undertaking naming settings).via Client.direct).run
      (Estate.peer raiseOnCall) here).2.exchanges, Fits access exchange.query) :
    RunsMirror aliases view (Tolerance.reworded aliases).Ends
      (((errand.undertaking naming settings).via Client.direct).run (Estate.peer raiseOnCall) here)
      (((errand.undertaking naming settings).via (relay access)).run server there) := by
  rw [run_eq, Program.via_direct] at fits ⊢
  rw [run_eq]
  exact serves.run web errand.action_alike (action_keeps words) mirrors plain 0 fits

/-- Over a server that serves an estate, a manager has the same results as on the estate, but for the
text of failures, and asks for the same at the same times; and the estate is the same afterwards. This
holds while names are words, and URLs are not too long. -/
theorem device_contract_over_http {errands : List Errand} (web : IsScheme access.scheme)
    (serves : Serves access.scheme aliases raiseOnCall view server)
    (words : ∀ errand ∈ errands, errand.IsPlain naming access.scheme)
    (mirrors : Mirrors view here there) (plain : here.state.IsPlain aliases)
    (fits : ∀ exchange ∈ (runAll naming settings Client.direct (Estate.peer raiseOnCall) errands
      here).2.exchanges, Fits access exchange.query) :
    RunsMirror aliases view (List.Forall₂ (Tolerance.reworded aliases).Ends)
      (runAll naming settings Client.direct (Estate.peer raiseOnCall) errands here)
      (runAll naming settings (relay access) server errands there) := by
  induction errands generalizing here there with
  | nil => exact ⟨.nil, mirrors, plain⟩
  | cons errand errands ih =>
      obtain ⟨own, others⟩ := List.forall_mem_cons.mp words
      have first := run_mirrors web serves own mirrors plain fun exchange member =>
        fits exchange (exchanges_subset_runAll Client.direct _ errands _ member)
      have rest := ih others first.mirrors first.plain fits
      exact ⟨.cons first.ends rest.ends, rest.mirrors, rest.plain⟩

theorem create_unsent {tenant host : String} {event : Event} {source : DeviceError}
    (unsent : DeviceApi.probe access host .folder (naming.folderName tenant) =
      .write event (.done (.error source))) (there : Surroundings Uplink τ) :
    (runAll naming settings (relay access) server [.create ⟨tenant, none, [⟨host⟩]⟩] there).1 =
      [.error (.provisioning tenant host source)] := by
  have goes : ∃ opening rest,
      ((create ⟨tenant, none, [⟨host⟩]⟩).action naming settings).run.via (relay access) =
        .write opening ((relay access (.probe host .folder (naming.folderName tenant))).bind rest) ∧
      rest (.error source) = .done (.error (.provisioning tenant host source)) :=
    -- All but the probe computes, whatever the tenant.
    ⟨_, _, rfl, rfl⟩
  obtain ⟨opening, rest, goes, fails⟩ := goes
  rw [runAll, run_eq, goes, relay, unsent]
  change [((rest (.error source)).run server 0 _).1] = _
  rw [fails]
  rfl

section

open DeviceApi (IsModest modestServer modestServer_serves network)

def account : Access := ⟨"http", "admin", "secret"⟩

def modestEstate : Estate where
  fleet := ⟨[("h1", ⟨["Project_t"], [⟨network, "Project_t"⟩]⟩)]⟩
  latencies := [("h1", 20)]
  faults := [⟨.delete, none, some .vlan, none, none, 0, some 1,
    ⟨.authExpired, "expired", none, none, none⟩, false⟩]

theorem modestEstate_modest : IsModest modestEstate :=
  IsModest.of_hosts (by decide)

def visits : List Errand :=
  [.clean ⟨"t", none, [⟨"h1"⟩]⟩, .create ⟨"t", none, [⟨"h1"⟩]⟩, .clean ⟨"t", none, [⟨"h1"⟩]⟩]

theorem isHost_h1 : IsHost "http" "h1" :=
  ⟨Text.forall_of_all (by decide), "h1".toList, none, by decide, rfl, rfl⟩

theorem device_contract_over_http_modest :
    RunsMirror [] Subtype.val (List.Forall₂ (Tolerance.reworded []).Ends)
      (runAll .default .default Client.direct (Estate.peer none) visits (.start modestEstate))
      (runAll .default .default (relay account) (modestServer none) visits
        (.start ⟨modestEstate, modestEstate_modest⟩)) := by
  refine device_contract_over_http (.inl rfl) (modestServer_serves none) ?_ ⟨rfl, rfl, rfl, rfl, rfl⟩
    ⟨modestEstate_modest.words, ?_⟩ ?_
  · have all : ∀ errand ∈ visits, IsWord (Naming.default.folderName errand.service.tenant) ∧
        errand.service.hosts = ["h1"] := by decide
    intro errand member
    obtain ⟨word, hosts⟩ := all errand member
    refine ⟨word, ?_⟩
    rw [hosts, List.forall_mem_singleton]
    exact isHost_h1
  · intro fault member _ _
    obtain rfl := List.mem_singleton.mp member
    decide
  · decide +kernel

def gist : Result → Except (Option String) (Provisioned ⊕ Report)
  | .ok value => .ok value
  | .error (.provisioning _ _ (.authExpired reporter _)) => .error (some reporter)
  | .error _ => .error none

theorem gist_of_ends {results others : List Result}
    (ends : List.Forall₂ (Tolerance.reworded []).Ends results others) :
    results.map gist = others.map gist := by
  induction ends with
  | nil => rfl
  | @cons result other _ _ first _ ih =>
      have same : gist result = gist other := by
        obtain value | near := first
        · rfl
        · cases near with
          | provisioning tenant host near =>
              obtain own | _ | _ := near
              · obtain rfl := own.resolve_right nofun
                rfl
              · rfl
              · rfl
          | _ => rfl
      rw [List.map_cons, List.map_cons, same, ih]

structure Outlier where
  errand : Errand
  estate : Estate
  modest : IsModest estate

namespace Outlier

def ofCreation (tenant host home : String) (folders : List String) (faults : List Fault) :
    Outlier where
  errand := .create ⟨tenant, none, [⟨host⟩]⟩
  estate := ⟨⟨[(home, ⟨folders, []⟩)]⟩, [], faults⟩
  modest := IsModest.of_hosts (by simp)

def direct (outlier : Outlier) : List Result :=
  (runAll .default .default Client.direct (Estate.peer none) [outlier.errand]
    (.start outlier.estate)).1

def relayed (outlier : Outlier) : List Result :=
  (runAll .default .default (relay account) (modestServer none) [outlier.errand]
    (.start ⟨outlier.estate, outlier.modest⟩)).1

def others : List Outlier := [
    -- What follows the mark is no part of the path.
    ofCreation "t#x" "h1" "h1" ["Project_t"] [],
    ofCreation "t" "h 1" "h1" [] [],
    -- Hosts are told in small letters.
    ofCreation "t" "H1" "H1" ["Project_t"] [],
    -- A response does not tell whose failure it is.
    ofCreation "t" "h1" "h1" [] [⟨.probe, none, none, none, none, 0, none,
      ⟨.authExpired, "expired", some "h2", none, none⟩, false⟩]]

theorem ofCreation_plain {tenant host home : String} {folders : List String} {faults : List Fault}
    (told : ∀ fault ∈ faults, fault.IsTold aliases) :
    (ofCreation tenant host home folders faults).estate.IsPlain aliases :=
  ⟨(ofCreation tenant host home folders faults).modest.words, told⟩

theorem ofCreation_differs {tenant : String} (word : IsWord (Naming.default.folderName tenant))
    (long : ¬ Fits account (.probe "h1" .folder (Naming.default.folderName tenant))) :
    (ofCreation tenant "h1" "h1" [] []).direct.map gist ≠
      (ofCreation tenant "h1" "h1" [] []).relayed.map gist := by
  obtain ⟨event, message, unsent⟩ :=
    DeviceApi.probe_unsent (.inl rfl) ⟨isHost_h1, word⟩ long
  have relayed : (ofCreation tenant "h1" "h1" [] []).relayed =
      [.error (.provisioning tenant "h1" (.other "h1" message))] := create_unsent unsent _
  have direct : ∃ value, (ofCreation tenant "h1" "h1" [] []).direct = [.ok value] := ⟨_, rfl⟩
  obtain ⟨value, direct⟩ := direct
  rw [direct, relayed]
  exact nofun

end Outlier

@[irreducible] def letters (count : Nat) : String := String.ofList (List.replicate count 'a')

theorem folderName_letters_isWord (count : Nat) :
    IsWord (Naming.default.folderName (letters count)) := by
  refine ⟨by simp [Naming.folderName, Naming.default], ?_⟩
  rw [Naming.folderName, String.toList_append, List.forall_mem_append]
  refine ⟨Text.forall_of_all (by decide), fun character member => ?_⟩
  rw [letters, String.toList_ofList] at member
  rw [List.eq_of_mem_replicate member]
  decide

theorem size_letters (count : Nat) : (letters count).utf8ByteSize = count := by
  rw [letters]
  induction count with
  | zero => rfl
  | succ count ih =>
      rw [List.replicate_succ', String.ofList_append, String.utf8ByteSize_append, ih]
      rfl

theorem letters_do_not_fit {count : Nat} (long : Web.longest ≤ count) :
    ¬ Fits account (.probe "h1" .folder (Naming.default.folderName (letters count))) := by
  rw [Fits, DeviceApi.address, Naming.folderName, String.utf8ByteSize_append,
    String.utf8ByteSize_append, String.utf8ByteSize_append, size_letters]
  have mark : 0 < "/~".utf8ByteSize := by decide
  omega

namespace Outlier

structure Differs (outlier : Outlier) : Prop where
  plain : outlier.estate.IsPlain ["h2"]
  valid : ∀ entry ∈ outlier.estate.fleet.hosts, (Web.Host.read? true entry.1.toList).isSome
  results : ¬ List.Forall₂ (Tolerance.reworded []).Ends outlier.direct outlier.relayed

theorem letters_differ {count : Nat} (long : Web.longest ≤ count) :
    (ofCreation (letters count) "h1" "h1" [] []).Differs where
  plain := ofCreation_plain (List.forall_mem_nil _)
  valid := List.forall_mem_singleton.mpr (by decide)
  results ends := ofCreation_differs (folderName_letters_isWord count) (letters_do_not_fit long)
    (gist_of_ends ends)

theorem others_differ : ∀ outlier ∈ others, outlier.Differs := by
  have valid : ∀ outlier ∈ others, ∀ entry ∈ outlier.estate.fleet.hosts,
      (Web.Host.read? true entry.1.toList).isSome := by decide +kernel
  have results : ∀ outlier ∈ others, outlier.direct.map gist ≠ outlier.relayed.map gist := by
    decide +kernel
  have told : ∀ outlier ∈ others, ∀ fault ∈ outlier.estate.faults,
      fault.answer.sort ≠ .notFound ∧ ∀ host ∈ fault.answer.host, host ∈ ["h2"] := by decide
  exact fun outlier member =>
    ⟨⟨outlier.modest.words, fun fault inside _ _ => told outlier member fault inside⟩,
      valid outlier member, fun ends => results outlier member (gist_of_ends ends)⟩

end Outlier

theorem results_differ_over_http :
    Serves "http" ["h2"] none Subtype.val (modestServer none) ∧
      ∀ outlier ∈ Outlier.ofCreation (letters Web.longest) "h1" "h1" [] [] :: Outlier.others,
        outlier.Differs :=
  ⟨modestServer_serves none,
    List.forall_mem_cons.mpr ⟨Outlier.letters_differ (Nat.le_refl _), Outlier.others_differ⟩⟩

end

end Errand

end Tenancy
