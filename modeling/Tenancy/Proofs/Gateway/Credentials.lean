import Tenancy.Gateway
import Tenancy.Proofs.Agenda.Hosts
import Tenancy.Proofs.Web.Authorization
import Tenancy.Proofs.Web.Bare
import Tenancy.Proofs.Web.User

/-!
Who gets to know the account. Each call to an appliance tells it, once; no other call tells any. Nothing
else depends on it: not what is asked, not what comes of it, and nothing that is written.
-/

namespace Tenancy

open DeviceApi (Access)
open Web (Http HttpRequest IsAuthority IsScheme Method Url account?)
open Web.Url (NamesNoUser)

variable {σ : Type}

namespace Web

def HttpRequest.LeadsTo (text : String) (request : HttpRequest) : Prop :=
  ∃ url, Url.read? text = some url ∧ request.url.scheme = url.scheme ∧
    request.url.host = url.host ∧ request.url.port = url.port

theorem read_of_prepare {text : String} {pairs : List (String × String)} {url : Url}
    {user : Option (List Char × List Char)} (prepared : prepare text pairs = .ok (url, user)) :
    ∃ own, Url.read? text = some own ∧ user = own.user ∧ url.scheme = own.scheme ∧
      url.host = own.host ∧ url.port = own.port := by
  rw [prepare] at prepared
  split at prepared
  next => cases prepared
  next own read =>
    split at prepared
    · cases prepared
    · simp only at prepared
      split at prepared
      · obtain ⟨rfl, rfl⟩ := Prod.mk.inj (Except.ok.inj prepared)
        exact ⟨own, read, rfl, foldl_withPair pairs { own with user := none }⟩
      · cases prepared

theorem send_confined {method : Method} {text : String} {pairs credentials : List (String × String)}
    {body : Option Json} (noUser : NamesNoUser text) :
    (send method text pairs credentials body).Confined fun query : HttpRequest =>
      query.credentials = credentials ∧ HttpRequest.LeadsTo text query := by
  unfold send
  cases prepared : prepare text pairs with
  | error failure => exact Program.confined_done _
  | ok whole =>
      obtain ⟨url, user⟩ := whole
      obtain ⟨own, read, same, place⟩ := read_of_prepare prepared
      obtain rfl : user = none := same.trans (noUser own read)
      rintro trail query (⟨-, rfl⟩ | ⟨answer, later, -, asks⟩)
      · exact ⟨rfl, own, read, place⟩
      · cases answer with
        | none => cases asks
        | some response => cases asks

theorem bare_send (method : Method) (text : String) (pairs : List (String × String))
    (body : Option Json) (credentials others : List (String × String)) :
    (send method text pairs credentials body).bare = (send method text pairs others body).bare := by
  unfold send
  cases prepare text pairs with
  | error failure => rfl
  | ok whole =>
      simp only [Program.bare, HttpRequest.bare]
      congr 1
      funext answer
      cases answer with
      | none => rfl
      | some response => rfl

def Seen.bare : Seen → Seen
  | .plain request => .plain request.bare
  | .tunnel authority => .tunnel authority

def Script.bare (script : Script) : Script := { script with seen := script.seen.map Seen.bare }

theorem Script.blind (notice : List Event) : (Script.peer notice).Blind Script.bare := by
  refine ⟨fun _ _ => rfl, fun _ _ _ => rfl, fun query script => ?_⟩
  have seen : seenOf query.bare = (seenOf query).bare := by
    rw [seenOf, seenOf, apply_ite Seen.bare]
    rfl
  simp only [Script.peer, respond, seen]
  rfl

def HttpRequest.GoesTo (scheme host : String) (request : HttpRequest) : Prop :=
  IsScheme scheme → ∀ authority, IsAuthority scheme host authority →
    request.url.scheme = scheme ∧ request.url.host = some authority.host ∧
      request.url.port = authority.port

end Web

namespace DeviceApi

variable {access : Access} {host : String} {kind : Kind} {name : String} {method : Method}
  {pairs : List (String × String)} {body : Option Json}

def below (access : Access) (host path : String) : String :=
  access.scheme ++ "://" ++ host ++ "/mgmt/tm/" ++ path

theorem collectionUrl_below : collectionUrl access host kind = below access host (collection kind) :=
  rfl

theorem below_append (path more : String) :
    below access host path ++ more = below access host (path ++ more) := by
  simp only [below, String.append_assoc]

theorem goesTo_of_leadsTo {path : String} {query : HttpRequest}
    (leads : query.LeadsTo (below access host path)) : query.GoesTo access.scheme host := by
  intro web authority named
  obtain ⟨url, read, scheme, place, port⟩ := leads
  have text : below access host path = access.scheme ++ "://" ++ host ++
      String.ofList ('/' :: ("mgmt/tm/" ++ path).toList) := by
    apply String.toList_inj.mp
    simp [below]
  rw [text, Url.read?_under web named] at read
  obtain ⟨same, there, behind⟩ := @Url.under_place access.scheme authority
    ("mgmt/tm/" ++ path).toList
  rw [← Option.some.inj read] at scheme place port
  exact ⟨scheme.trans same, place.trans there, port.trans behind⟩

def TellsAccount (access : Access) (host : String) (query : HttpRequest) : Prop :=
  query.GoesTo access.scheme host ∧
    query.authorizations.map account? = [some (access.username, access.password)]

theorem send_confined {path : String} (noUser : NamesNoUser (below access host path))
    (plain : ':' ∉ access.username.toList) :
    (send access host kind name method (below access host path) pairs body).Confined
      (TellsAccount access host) := by
  rw [send, Program.bind_eq]
  refine Program.Confined.bind ?_ fun result => Program.confined_done _
  refine (Web.send_confined noUser).mono fun query sent => ?_
  obtain ⟨told, leads⟩ := sent
  refine ⟨goesTo_of_leadsTo leads, ?_⟩
  rw [HttpRequest.authorizations, told, List.map_singleton, List.map_singleton,
    Web.account?_basicAuthorization plain]

end DeviceApi

def Request.appliance? : Request → Option String
  | probe host _ _ => some host
  | create host _ _ => some host
  | list host _ _ => some host
  | delete host _ => some host
  | releasePort _ => none
  | releaseTag _ _ => none

namespace Gateway

structure NamesNoUser (gateway : Gateway) (hosts : List String) : Prop where
  appliances : ∀ host ∈ hosts, ∀ path,
    Url.NamesNoUser (DeviceApi.below gateway.access host path)
  ports : ∀ endpoint, gateway.portEndpoint = some endpoint →
    Url.NamesNoUser (base endpoint ++ "/ports")
  fabric : ∀ endpoint, gateway.fabricEndpoint = some endpoint → ∀ tag : UInt16,
    Url.NamesNoUser (base endpoint ++ "/networks/" ++ toString tag.toNat)

/-- A call for a request for an appliance tells it the account, any other call tells none. -/
def Discreet (gateway : Gateway) (request : Request) (query : HttpRequest) : Prop :=
  match request.appliance? with
  | some host => DeviceApi.TellsAccount gateway.access host query
  | none => query.authorizations = []

variable {gateway : Gateway} {hosts : List String}

theorem silent_of_send {method : Method} {text : String} {pairs : List (String × String)}
    (noUser : Url.NamesNoUser text) :
    (Web.send method text pairs [] none).Confined fun query : HttpRequest =>
      query.authorizations = [] :=
  (Web.send_confined noUser).mono fun query sent => by
    rw [HttpRequest.authorizations, sent.1, List.map_nil]

theorem releasePort_silent (noUser : gateway.NamesNoUser hosts) (port : String) :
    (releasePort gateway.portEndpoint port).Confined fun query : HttpRequest =>
      query.authorizations = [] := by
  unfold releasePort
  cases endpoint : gateway.portEndpoint with
  | none =>
      refine Program.confined_note_bind_iff.mpr ?_
      exact Program.confined_done _
  | some own =>
      refine Program.confined_note_bind_iff.mpr ?_
      exact (silent_of_send (noUser.ports own endpoint)).bind fun _ => Program.confined_done _

theorem releaseTag_silent (noUser : gateway.NamesNoUser hosts) (host : String) (tag : UInt16) :
    (releaseTag gateway.fabricEndpoint host tag).Confined fun query : HttpRequest =>
      query.authorizations = [] := by
  unfold releaseTag
  cases endpoint : gateway.fabricEndpoint with
  | none => exact Program.confined_done _
  | some own =>
      refine Program.confined_note_bind_iff.mpr ?_
      refine (silent_of_send (noUser.fabric own endpoint tag)).bind fun result => ?_
      cases released : tagReleased tag result with
      | error failure => exact Program.confined_done _
      | ok removed =>
          cases removed with
          | false => exact Program.confined_done _
          | true => exact Program.confined_note_bind_iff.mpr (Program.confined_done _)

section

variable (noUser : gateway.NamesNoUser hosts) (plain : ':' ∉ gateway.access.username.toList)
include noUser plain

theorem send_discreet {host : String} (member : host ∈ hosts) (path : String) {request : Request}
    (placed : request.appliance? = some host) {kind : Kind} {name : String} {method : Method}
    {pairs : List (String × String)} {body : Option Json} :
    (DeviceApi.send gateway.access host kind name method (DeviceApi.below gateway.access host path)
      pairs body).Confined (gateway.Discreet request) := by
  refine (DeviceApi.send_confined (noUser.appliances host member path) plain).mono
    fun query tells => ?_
  rw [Discreet, placed]
  exact tells

theorem client_discreet {request : Request} (on : request.IsOn hosts) :
    (gateway.client request).Confined (gateway.Discreet request) := by
  cases request with
  | probe host kind name =>
      rw [client, DeviceApi.probe, DeviceApi.collectionUrl_below, DeviceApi.below_append,
        DeviceApi.below_append]
      refine Program.confined_note_bind_iff.mpr ?_
      exact (send_discreet noUser plain (on host rfl) _ rfl).bind fun _ => Program.confined_done _
  | create host kind payload =>
      rw [client, DeviceApi.create, DeviceApi.collectionUrl_below]
      refine Program.confined_note_bind_iff.mpr ?_
      exact (send_discreet noUser plain (on host rfl) _ rfl).bind fun _ => Program.confined_done _
  | list host kind partition =>
      rw [client, DeviceApi.list, DeviceApi.collectionUrl_below]
      refine Program.confined_note_bind_iff.mpr ?_
      exact (send_discreet noUser plain (on host rfl) _ rfl).bind fun _ => Program.confined_done _
  | delete host resource =>
      rw [client, DeviceApi.delete, DeviceApi.objectUrl, DeviceApi.collectionUrl_below,
        DeviceApi.below_append, DeviceApi.below_append]
      refine Program.confined_note_bind_iff.mpr ?_
      exact (send_discreet noUser plain (on host rfl) _ rfl).bind fun _ => Program.confined_done _
  | releasePort port => exact releasePort_silent noUser port
  | releaseTag host tag => exact releaseTag_silent noUser host tag

end

def withAccount (gateway : Gateway) (username password : String) : Gateway :=
  { gateway with
    access := { gateway.access with username := username, password := password } }

theorem bare_client (gateway : Gateway) (username password : String) (request : Request) :
    ((gateway.withAccount username password).client request).bare =
      (gateway.client request).bare := by
  have sent {host : String} {kind : Kind} {name : String} {method : Method} {url : String}
      {pairs : List (String × String)} {body : Option Json} :
      (DeviceApi.send (gateway.withAccount username password).access host kind name method url pairs
          body).bare =
        (DeviceApi.send gateway.access host kind name method url pairs body).bare := by
    rw [DeviceApi.send, DeviceApi.send, Program.bind_eq, Program.bind_eq, Program.bare_bind,
      Program.bare_bind, Web.bare_send]
  have urls (host : String) (kind : Kind) :
      DeviceApi.collectionUrl (gateway.withAccount username password).access host kind =
        DeviceApi.collectionUrl gateway.access host kind := rfl
  cases request with
  | probe host kind name =>
      simp only [client, DeviceApi.probe, urls, Program.note, Program.bind_eq, Program.bind,
        Program.bare, Program.bare_bind, sent]
  | create host kind payload =>
      simp only [client, DeviceApi.create, urls, Program.note, Program.bind_eq, Program.bind,
        Program.bare, Program.bare_bind, sent]
  | list host kind partition =>
      simp only [client, DeviceApi.list, urls, Program.note, Program.bind_eq, Program.bind,
        Program.bare, Program.bare_bind, sent]
  | delete host resource =>
      simp only [client, DeviceApi.delete, DeviceApi.objectUrl, urls, Program.note, Program.bind_eq,
        Program.bind, Program.bare, Program.bare_bind, sent]
  | releasePort port => rfl
  | releaseTag host tag => rfl

end Gateway

theorem Agenda.runVia_bare {naming : Naming} {settings : Settings} {client : Client Http}
    {peer : Peer Http σ} {view : σ → σ} (blind : peer.Blind view) (agenda : List Occasion)
    (before : Surroundings Http σ) :
    runVia naming settings (fun request => (client request).bare) peer agenda (before.bare view) =
      ((runVia naming settings client peer agenda before).1,
        (runVia naming settings client peer agenda before).2.bare view) := by
  induction agenda generalizing before with
  | nil => rfl
  | cons occasion agenda ih =>
      cases occasion with
      | departure => exact ih { before with signal := before.signal.map Signal.drop }
      | chore chore =>
          simp only [runVia, ← Undertaking.bare_via, Undertaking.run_bare blind, ih]

namespace Gateway

theorem namesNoUser_of_plain {gateway : Gateway} {hosts : List String}
    (web : IsScheme gateway.access.scheme) (appliances : ∀ host ∈ hosts, '@' ∉ host.toList)
    (endpoints : ∀ endpoint, gateway.portEndpoint = some endpoint ∨
      gateway.fabricEndpoint = some endpoint → '@' ∉ endpoint.toList) :
    gateway.NamesNoUser hosts := by
  have kept {endpoint : String} (absent : '@' ∉ endpoint.toList) :
      '@' ∉ (base endpoint).toList := by
    intro member
    rw [base, String.toList_ofList, List.mem_reverse] at member
    exact absent (List.mem_reverse.mp ((List.dropWhile_sublist _).subset member))
  refine ⟨fun host member path => Url.namesNoUser_of_host web (appliances host member) path,
    fun endpoint known => Url.namesNoUser_of_plain ?_,
    fun endpoint known tag => Url.namesNoUser_of_plain ?_⟩
  · rw [String.toList_append, List.mem_append, not_or]
    exact ⟨kept (endpoints endpoint (.inl known)), by decide⟩
  · have digits : '@' ∉ (toString tag.toNat).toList := by
      intro member
      have digit : '@'.isDigit := Nat.isDigit_of_mem_toDigits (by decide) (by decide)
        (String.toList_ofList ▸ member)
      exact absurd digit (by decide)
    rw [String.toList_append, List.mem_append, not_or, String.toList_append, List.mem_append, not_or]
    exact ⟨⟨kept (endpoints endpoint (.inr known)), by decide⟩, digits⟩

def Makes (gateway : Gateway) (request : Request) (query : HttpRequest) : Prop :=
  ∃ trail, (gateway.client request).Asks trail query

/-- Whatever is asked for and whatever is answered, each call is made for a request on one of the
hosts, and an appliance is told the account with each of its calls, while nobody else is told any.
To a peer that does not look at accounts, another account is asked, answered and logged for in the
same way. -/
theorem credentials_reach_appliances_only (gateway : Gateway) (naming : Naming)
    (settings : Settings) (agenda : List Occasion) (peer : Peer Http σ)
    (before : Surroundings Http σ) (noUser : gateway.NamesNoUser (agenda.flatMap Occasion.hosts))
    (plain : ':' ∉ gateway.access.username.toList) :
    let here := Agenda.runVia naming settings gateway.client peer agenda before
    Recorded (fun query : HttpRequest => ∃ request : Request,
        request.IsOn (agenda.flatMap Occasion.hosts) ∧ gateway.Makes request query)
      before.exchanges here.2.exchanges ∧
    (∀ (request : Request) query, request.IsOn (agenda.flatMap Occasion.hosts) →
      gateway.Makes request query → gateway.Discreet request query) ∧
    ∀ username password view start, peer.Blind view → start.bare view = before.bare view →
      let other := gateway.withAccount username password
      let there := Agenda.runVia naming settings other.client peer agenda start
      there.1 = here.1 ∧ there.2.bare view = here.2.bare view := by
  intro here
  refine ⟨?made, ?discreet, ?alike⟩
  case made =>
    refine Agenda.recorded_runVia (fun occasion member host inside => ?_)
      (fun request on trail query asks => ⟨request, on, trail, asks⟩) before
    exact List.mem_flatMap.mpr ⟨occasion, member, inside⟩
  case discreet =>
    rintro request query on ⟨trail, asks⟩
    exact client_discreet noUser plain on trail query asks
  case alike =>
    intro username password view start blind same other there
    have clients : (fun request => (other.client request).bare) =
        fun request => (gateway.client request).bare :=
      funext (gateway.bare_client username password)
    have mine := @Agenda.runVia_bare σ naming settings gateway.client peer view blind agenda before
    have its := @Agenda.runVia_bare σ naming settings other.client peer view blind agenda start
    rw [clients, same, mine] at its
    obtain ⟨results, left⟩ := Prod.mk.inj its
    exact ⟨results.symm, left.symm⟩

def wired : Gateway :=
  ⟨⟨"http", "admin", "pass:word"⟩, some "http://plugin:8080", some "http://fabric:9090/"⟩

def rounds : List Occasion :=
  [.chore (.create ⟨"t", none, [⟨"h1"⟩, ⟨"h2:8443"⟩]⟩), .departure,
    .chore (.clean ⟨"t", none, [⟨"h1"⟩, ⟨"h2:8443"⟩]⟩ (.bestEffort 2))]

def grudging : Web.Script :=
  ⟨[⟨some ⟨200, [], true⟩, false⟩, ⟨some ⟨200, [], true⟩, false⟩, ⟨none, false⟩], []⟩

theorem wired_namesNoUser : wired.NamesNoUser (rounds.flatMap Occasion.hosts) := by
  refine namesNoUser_of_plain (.inl rfl) (by decide) fun endpoint known => ?_
  obtain known | known := known
  · obtain rfl := Option.some.inj known
    decide
  · obtain rfl := Option.some.inj known
    decide

theorem credentials_reach_appliances_only_wired :
    let here := Agenda.runVia .default .default wired.client (Web.Script.peer []) rounds
      (.start grudging)
    let other := wired.withAccount "operator" ""
    let there := Agenda.runVia .default .default other.client (Web.Script.peer []) rounds
      (.start grudging)
    wired.NamesNoUser (rounds.flatMap Occasion.hosts) ∧ ':' ∉ wired.access.username.toList ∧
      Recorded (fun query : HttpRequest => ∃ request : Request,
          request.IsOn (rounds.flatMap Occasion.hosts) ∧ wired.Makes request query)
        [] here.2.exchanges ∧
      (∀ (request : Request) query, request.IsOn (rounds.flatMap Occasion.hosts) →
        wired.Makes request query → wired.Discreet request query) ∧
      there.1 = here.1 ∧ there.2.bare Web.Script.bare = here.2.bare Web.Script.bare := by
  have plain : ':' ∉ wired.access.username.toList := by decide
  obtain ⟨made, discreet, alike⟩ := credentials_reach_appliances_only wired .default .default rounds
    (Web.Script.peer []) (.start grudging) wired_namesNoUser plain
  have same := alike "operator" "" Web.Script.bare (.start grudging) (Web.Script.blind []) rfl
  exact ⟨wired_namesNoUser, plain, made, discreet, same⟩

end Gateway

end Tenancy
