import Tenancy.Proofs.DeviceApi.Responses
import Tenancy.Proofs.DeviceApi.Routes
import Tenancy.Proofs.Program.Vocabulary
import Tenancy.Proofs.Provisioning
import Tenancy.Proofs.Provisioning.Parts
import Tenancy.Proofs.Teardown.Parts

/-!
The manager speaks in words: of valid hosts and a partition whose name is a word it asks nothing that
cannot stand in a URL, as long as the appliances list words only.
-/

namespace Tenancy

open Text (IsWord)
open Web (IsHost)

def Request.words (scheme : String) (aliases : List String) : Vocabulary Backend :=
  ⟨IsPlain scheme, Expects aliases⟩

variable {scheme : String} {aliases : List String} {policy : RetryPolicy} {host partition : String}

open Request (words)
open Tenancy.Action

namespace Catalog

theorem list_keeps (valid : IsHost scheme host) (word : IsWord partition) (kind : Kind) :
    (list host partition kind).Keeps (words scheme aliases) fun resources =>
      ∀ resource ∈ resources, IsWord resource.partition ∧ IsWord resource.name := by
  refine keeps_ask_bind ⟨valid, word⟩ fun answer told => ?_
  cases answer with
  | error source => exact keeps_throw _
  | ok resources =>
      exact keeps_pure fun resource member => (told.2 resources rfl resource member).2

theorem routeDomainNames_keeps (valid : IsHost scheme host) (word : IsWord partition) :
    (routeDomainNames host partition).Keeps (words scheme aliases) fun names =>
      ∀ name ∈ names, IsWord name := by
  refine (list_keeps valid word .routeDomain).bind fun domains plain => keeps_pure ?_
  rintro name member
  obtain ⟨domain, inside, rfl⟩ := List.mem_map.mp member
  exact (plain domain inside).2

end Catalog

namespace Teardown

theorem drainEach_keeps (valid : IsHost scheme host) {resources : List Resource}
    (words : ∀ resource ∈ resources, IsWord resource.partition ∧ IsWord resource.name) :
    (drainEach policy host resources).Keeps (Request.words scheme aliases) fun _ => True := by
  refine keeps_of_asks fun trail request asked => ?_
  obtain ⟨resource, member, rfl | ⟨tag, -, rfl⟩⟩ := drainEach_asks asked
  · exact ⟨valid, words resource member⟩
  · trivial

theorem releasePorts_keeps (valid : IsHost scheme host) (word : IsWord partition)
    (kinds : List Kind) :
    (releasePorts host partition kinds).Keeps (words scheme aliases) fun _ => True := by
  induction kinds with
  | nil => exact keeps_pure trivial
  | cons kind kinds ih =>
      refine keeps_ask_bind ⟨valid, word⟩ fun answer _ => ?_
      cases answer with
      | error source => exact keeps_note_bind ih
      | ok resources =>
          have offered : (releaseEach resources).Keeps (words scheme aliases) fun _ => True := by
            refine keeps_of_asks fun trail request asked => ?_
            obtain ⟨port, rfl⟩ := releaseEach_asks asked
            trivial
          exact offered.bind fun _ _ => ih

theorem deleteRouteDomains_keeps (valid : IsHost scheme host) (word : IsWord partition)
    {names : List String} (plain : ∀ name ∈ names, IsWord name) :
    (deleteRouteDomains host partition names).Keeps (words scheme aliases) fun _ => True := by
  induction names with
  | nil => exact keeps_pure trivial
  | cons name names ih =>
      obtain ⟨own, rest⟩ := List.forall_mem_cons.mp plain
      refine keeps_ask_bind ⟨valid, word, own⟩ fun answer _ => ?_
      rcases answer with (_ | _ | _) | _
      · exact keeps_note_bind (keeps_throw _)
      · exact ih rest
      · exact keeps_note_bind (keeps_throw _)
      · exact keeps_note_bind (ih rest)

theorem work_keeps (valid : IsHost scheme host) (word : IsWord partition) {names : List String}
    (plain : ∀ name ∈ names, IsWord name) (stage : Stage) :
    (work policy host partition names stage).Keeps (words scheme aliases) fun _ => True := by
  cases stage with
  | ports => exact releasePorts_keeps valid word Kind.portBound
  | offered => exact keeps_pure trivial
  | draining kind =>
      exact (Catalog.list_keeps valid word kind).bind fun _ listed => drainEach_keeps valid listed
  | routeDomains => exact keeps_note_bind (deleteRouteDomains_keeps valid word plain)
  | folder =>
      have removed : (deleteFolder host partition).Keeps (words scheme aliases) fun _ => True :=
        keeps_of_asks fun _ _ asked => deleteFolder_asks asked ▸ ⟨valid, word, word⟩
      exact removed.bind fun _ _ => keeps_note_bind (keeps_pure trivial)

theorem run_keeps (valid : IsHost scheme host) (word : IsWord partition) :
    (run policy host partition).Keeps (words scheme aliases) fun _ => True := by
  have lists (kind : Kind) : (ask (.list host kind partition)).Keeps (words scheme aliases)
      fun _ => True := keeps_ask ⟨valid, word⟩
  refine keeps_ask_bind ⟨valid, word⟩ fun answer _ => ?_
  rcases answer with source | _ | _
  · exact keeps_throw _
  · exact keeps_note_bind (keeps_pure trivial)
  · refine (Catalog.routeDomainNames_keeps valid word).bind fun names plain => ?_
    have empties := Catalog.lacks_of_passedOn keeps_passedOn lists Kind.loadBearing
    refine empties.bind fun empty _ => ?_
    cases empty with
    | false => exact keeps_note_bind (keeps_pure trivial)
    | true => exact dismantle_of_passedOn keeps_passedOn (work_keeps valid word plain)

end Teardown

theorem Cleanup.inTurn_keeps (word : IsWord partition) {hosts : List String}
    (valid : ∀ host ∈ hosts, IsHost scheme host) :
    (inTurn policy partition hosts).Keeps (words scheme aliases) fun _ => True :=
  inTurn_of_passedOn keeps_passedOn fun host member => Teardown.run_keeps (valid host member) word

namespace Provisioning

variable {naming : Naming} {service : Service} {trafficGroup : String}

theorem assureOn_keeps (valid : IsHost scheme host)
    (word : IsWord (naming.folderName service.tenant)) :
    (assureOn naming service trafficGroup host).Keeps (words scheme aliases) fun _ => True :=
  assureOn_of_passedOn keeps_passedOn (keeps_ask ⟨valid, word⟩) (keeps_ask valid)

theorem assureCreated_keeps (settings : Settings)
    (word : IsWord (naming.folderName service.tenant))
    (valid : ∀ host ∈ service.hosts, IsHost scheme host) :
    (assureCreated naming settings service).Keeps (words scheme aliases) fun _ => True :=
  assureCreated_of_passedOn keeps_passedOn settings fun host member =>
    assureOn_keeps (valid host member) word

end Provisioning

end Tenancy
