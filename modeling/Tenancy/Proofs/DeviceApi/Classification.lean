import Tenancy.Gateway
import Tenancy.Proofs.DeviceApi.Reading
import Tenancy.Proofs.Teardown.Completion
import Tenancy.Proofs.Web.Query

/-!
What becomes of a response. Its status and its body alone decide the result of the operation that
asked for it: a success with a body that says what is wanted, one of three failures else.
-/

namespace Tenancy

open Json (Node)
open Json.Node (Agree)
open Web (Http HttpFailure Method Response)

inductive Comes : Trail Http → Option Response → Prop
  | unsent : Comes [] none
  | answered (request response) : Comes [.asked request response] response

namespace DeviceApi

def Succeeds (response : Response) : Prop := 200 ≤ response.status ∧ response.status < 300

def Says {τ : Type} (response : Response) (reads : Node → τ → Prop) (value : τ) : Prop :=
  Succeeds response ∧ response.complete ∧
    ∃ node, Node.read? response.body = some node ∧ reads node value

/-- A response decides the result of an operation on an object. `means` tells the responses that
mean a value. -/
structure Settles {α : Type} (host : String) (kind : Kind) (name : String)
    (means : Response → α → Prop) (response : Option Response) (result : Except DeviceError α) :
    Prop where
  ok : ∀ value, result = .ok value ↔ ∃ given ∈ response, means given value
  expired : ∀ reporter detail, result = .error (.authExpired reporter detail) ↔
    reporter = host ∧ ∃ given ∈ response, given.status = 401 ∧ detail = given.text
  missing : ∀ reporter sort missed, result = .error (.notFound reporter sort missed) ↔
    (reporter = host ∧ sort = kind ∧ missed = name) ∧
      ∃ given ∈ response, given.status = 404 ∧ ∀ value, ¬ means given value
  other : ∀ reporter detail, result = .error (.other reporter detail) → reporter = host

def MeansPresence (response : Response) : Bool → Prop
  | true => Succeeds response
  | false => response.status = 404

def MeansObject (kind : Kind) (response : Response) (resource : Resource) : Prop :=
  ∃ item, Says response IsItem item ∧
    resource = ⟨kind, item.name, item.partition.getD item.name, item.tag⟩

def MeansObjects (kind : Kind) (partition : String) (response : Response)
    (resources : List Resource) : Prop :=
  ∃ items, Says response IsCollection items ∧
    resources = items.map fun item => ⟨kind, item.name, item.partition.getD partition, item.tag⟩

section

variable {α : Type} {host : String} {kind : Kind} {name : String} {response : Response}

theorem isSuccess_iff : Web.Status.isSuccess response.status ↔ Succeeds response := by
  simp [Web.Status.isSuccess, Succeeds]

theorem classify_cases (host : String) (kind : Kind) (name : String) (response : Response) :
    Succeeds response ∧ classify host kind name response = .ok response ∨
      ¬ Succeeds response ∧ response.status = 401 ∧
        classify host kind name response = .error (.authExpired host response.text) ∨
      ¬ Succeeds response ∧ response.status = 404 ∧
        classify host kind name response = .error (.notFound host kind name) ∨
      ¬ Succeeds response ∧ response.status ≠ 401 ∧ response.status ≠ 404 ∧
        ∃ detail, classify host kind name response = .error (.other host detail) := by
  rw [← isSuccess_iff, classify]
  by_cases success : Web.Status.isSuccess response.status
  · exact .inl ⟨success, if_pos success⟩
  · rw [if_neg success]
    by_cases expired : response.status = 401
    · exact .inr (.inl ⟨success, expired, if_pos expired⟩)
    · rw [if_neg expired]
      by_cases missing : response.status = 404
      · exact .inr (.inr (.inl ⟨success, missing, if_pos missing⟩))
      · exact .inr (.inr (.inr ⟨success, expired, missing, _, if_neg missing⟩))

theorem send_yields {access : Access} {method : Method} {url : String}
    {pairs : List (String × String)} {body : Option Json} {trail : Trail Http}
    {settled : Except DeviceError Response}
    (taken : (send access host kind name method url pairs body).Yields trail settled) :
    (∃ response, Comes trail (some response) ∧ settled = classify host kind name response) ∨
      ∃ detail, Comes trail none ∧ settled = .error (.other host detail) := by
  rw [send, Program.bind_eq, Program.yields_bind_iff] at taken
  obtain ⟨outcome, first, second, rfl, sent, rfl, rfl⟩ := taken
  rw [List.append_nil]
  unfold Web.send at sent
  split at sent
  next =>
    obtain ⟨rfl, rfl⟩ := sent
    exact .inr ⟨_, .unsent, rfl⟩
  next =>
    obtain ⟨_ | response, later, rfl, rfl, rfl⟩ := sent
    · exact .inr ⟨_, .answered _ none, rfl⟩
    · exact .inl ⟨response, .answered _ (some response), rfl⟩

section

variable {means : Response → α → Prop} {value : α}

theorem settles_ok (meant : means response value)
    (one : ∀ other, means response other → other = value) (current : response.status ≠ 401) :
    Settles host kind name means (some response) (.ok value) where
  ok other := by
    simp only [Option.mem_def, Option.some.injEq, exists_eq_left', Except.ok.injEq]
    exact ⟨fun same => same ▸ meant, fun meant => (one other meant).symm⟩
  expired := by
    simp only [Option.mem_def, Option.some.injEq, exists_eq_left', reduceCtorEq, false_iff]
    exact fun _ _ ⟨_, expired, _⟩ => current expired
  missing := by
    simp only [Option.mem_def, Option.some.injEq, exists_eq_left', reduceCtorEq, false_iff]
    exact fun _ _ _ ⟨_, _, meaningless⟩ => meaningless value meant
  other := nofun

theorem settles_expired (meaningless : ∀ value, ¬ means response value)
    (expired : response.status = 401) :
    Settles host kind name means (some response) (.error (.authExpired host response.text)) where
  ok value := by
    simp only [Option.mem_def, Option.some.injEq, exists_eq_left', reduceCtorEq, false_iff]
    exact meaningless value
  expired reporter detail := by
    simp only [Option.mem_def, Option.some.injEq, exists_eq_left', Except.error.injEq,
      DeviceError.authExpired.injEq, expired, true_and]
    exact and_congr eq_comm eq_comm
  missing := by
    simp [expired]
  other := nofun

theorem settles_missing (meaningless : ∀ value, ¬ means response value)
    (missing : response.status = 404) :
    Settles host kind name means (some response) (.error (.notFound host kind name)) where
  ok value := by
    simp only [Option.mem_def, Option.some.injEq, exists_eq_left', reduceCtorEq, false_iff]
    exact meaningless value
  expired := by
    simp [missing]
  missing reporter sort missed := by
    simp only [Option.mem_def, Option.some.injEq, exists_eq_left', Except.error.injEq,
      DeviceError.notFound.injEq, missing, true_and]
    grind
  other := nofun

theorem settles_other {response : Option Response} {detail : String}
    (meaningless : ∀ given ∈ response, ∀ value, ¬ means given value)
    (current : ∀ given ∈ response, given.status ≠ 401)
    (present : ∀ given ∈ response, given.status ≠ 404) :
    Settles host kind name means response (.error (.other host detail)) where
  ok value := ⟨nofun, fun ⟨given, own, meant⟩ => absurd meant (meaningless given own value)⟩
  expired _ _ := ⟨nofun, fun ⟨_, given, own, expired, _⟩ => absurd expired (current given own)⟩
  missing _ _ _ := ⟨nofun, fun ⟨_, given, own, missing, _⟩ => absurd missing (present given own)⟩
  other reporter detail same := by
    cases same
    rfl

end

theorem settles_of_send {access : Access} {method : Method} {url : String}
    {pairs : List (String × String)} {body : Option Json} {trail : Trail Http}
    {means : Response → α → Prop} {reading : Response → Except DeviceError α}
    {result : Except DeviceError α}
    (reads : ∀ response, Succeeds response → ∀ value,
      reading response = .ok value ↔ means response value)
    (told : ∀ response source, reading response = .error source →
      ∃ detail, source = .other host detail)
    (succeeds : ∀ response value, means response value → Succeeds response)
    (taken : ((send access host kind name method url pairs body).bind
      fun settled => .done (settled.bind reading)).Yields trail result) :
    ∃ response, Comes trail response ∧ Settles host kind name means response result := by
  obtain ⟨settled, first, second, rfl, sent, rfl, rfl⟩ := (Program.yields_bind_iff ..).mp taken
  rw [List.append_nil]
  obtain ⟨response, comes, rfl⟩ | ⟨detail, comes, rfl⟩ := send_yields sent
  case inr => exact ⟨none, comes, settles_other nofun nofun nofun⟩
  refine ⟨some response, comes, ?_⟩
  have meaningless (failed : ¬ Succeeds response) (value : α) : ¬ means response value :=
    fun meant => failed (succeeds response value meant)
  obtain ⟨success, same⟩ | ⟨failed, expired, same⟩ | ⟨failed, missing, same⟩ |
    ⟨failed, current, present, detail, same⟩ := classify_cases host kind name response
  case inl =>
    have current : response.status ≠ 401 ∧ response.status ≠ 404 := by
      unfold Succeeds at success
      omega
    rw [same, Except.bind]
    cases read : reading response with
    | ok value =>
        refine settles_ok ((reads response success value).mp read) (fun other meant => ?_) current.1
        have again := (reads response success other).mpr meant
        exact Except.ok.inj (again.symm.trans read)
    | error source =>
        obtain ⟨detail, rfl⟩ := told response source read
        refine settles_other ?_ ?_ ?_ <;> rintro _ ⟨⟩
        · intro value meant
          cases read.symm.trans ((reads response success value).mpr meant)
        · exact current.1
        · exact current.2
  case inr.inl =>
    rw [same]
    exact settles_expired (meaningless failed) expired
  case inr.inr.inl =>
    rw [same]
    exact settles_missing (meaningless failed) missing
  case inr.inr.inr =>
    rw [same]
    refine settles_other ?_ ?_ ?_ <;> rintro _ ⟨⟩
    · exact meaningless failed
    · exact current
    · exact present

theorem settles_of_probed {access : Access} {method : Method} {url : String}
    {pairs : List (String × String)} {payload : Option Json} {trail : Trail Http}
    {result : Except DeviceError Bool}
    (taken : ((send access host kind name method url pairs payload).bind
      fun settled => .done (probed settled)).Yields trail result) :
    ∃ response, Comes trail response ∧ Settles host kind name MeansPresence response result := by
  obtain ⟨settled, first, second, rfl, sent, rfl, rfl⟩ := (Program.yields_bind_iff ..).mp taken
  rw [List.append_nil]
  obtain ⟨response, comes, rfl⟩ | ⟨detail, comes, rfl⟩ := send_yields sent
  case inr => exact ⟨none, comes, settles_other nofun nofun nofun⟩
  refine ⟨some response, comes, ?_⟩
  have meaningless (failed : ¬ Succeeds response) (present : response.status ≠ 404) (value : Bool) :
      ¬ MeansPresence response value := by
    cases value
    · exact present
    · exact failed
  obtain ⟨success, same⟩ | ⟨failed, expired, same⟩ | ⟨failed, missing, same⟩ |
    ⟨failed, current, present, detail, same⟩ := classify_cases host kind name response
  case inl =>
    have apart : response.status ≠ 401 ∧ response.status ≠ 404 := by
      unfold Succeeds at success
      omega
    have meant : MeansPresence response true := success
    rw [same]
    refine settles_ok meant (fun other meant => ?_) apart.1
    cases other with
    | true => rfl
    | false => exact absurd meant apart.2
  case inr.inl =>
    rw [same]
    exact settles_expired (meaningless failed (by omega)) expired
  case inr.inr.inl =>
    have meant : MeansPresence response false := missing
    rw [same]
    refine settles_ok meant (fun other meant => ?_) (by omega)
    cases other with
    | true => exact absurd meant failed
    | false => rfl
  case inr.inr.inr =>
    rw [same]
    refine settles_other ?_ ?_ ?_ <;> rintro _ ⟨⟩
    · exact meaningless failed present
    · exact current
    · exact present

theorem decode_eq_ok_iff {τ : Type} {ofNode? : Node → Option τ} {reads : Node → τ → Prop}
    (known : ∀ node value, ofNode? node = some value ↔ reads node value)
    (success : Succeeds response) (value : τ) :
    decode host ofNode? response = .ok value ↔ Says response reads value := by
  have read : decode host ofNode? response = .ok value ↔
      response.decode? ofNode? = some value := by
    unfold decode
    split
    next own same => rw [same, Except.ok.injEq, Option.some.injEq]
    next absent => simp [absent]
  rw [read, Response.decode?, Says]
  by_cases complete : response.complete
  · simp only [complete, if_true, Option.bind_eq_some_iff, known, success, true_and]
  · simp [complete]

theorem decode_map_eq_ok_iff {τ σ : Type} {ofNode? : Node → Option τ} {reads : Node → τ → Prop}
    (known : ∀ node value, ofNode? node = some value ↔ reads node value)
    (success : Succeeds response) {change : τ → σ} {result : σ} :
    (decode host ofNode? response).map change = .ok result ↔
      ∃ value, Says response reads value ∧ result = change value := by
  have read (value : τ) : Says response reads value ↔
      decode host ofNode? response = .ok value :=
    (decode_eq_ok_iff known success value).symm
  simp only [read]
  cases decode host ofNode? response with
  | ok value => simp [Except.map, eq_comm]
  | error source => simp [Except.map]

theorem decode_map_error {τ σ : Type} {ofNode? : Node → Option τ} {change : τ → σ}
    {source : DeviceError}
    (failed : (decode host ofNode? response).map change = .error source) :
    ∃ detail, source = .other host detail := by
  unfold decode at failed
  split at failed
  next => cases failed
  next =>
    cases failed
    exact ⟨_, rfl⟩

theorem succeeds_of_said {τ σ : Type} {reads : Node → τ → Prop} {change : τ → σ} {result : σ}
    (meant : ∃ value, Says response reads value ∧ result = change value) : Succeeds response := by
  obtain ⟨value, told, -⟩ := meant
  exact told.1

theorem created_eq (response : Response) : created host kind response =
    (decode host Item.ofNode? response).map fun item =>
      ⟨kind, item.name, item.partition.getD item.name, item.tag⟩ := by
  unfold created
  cases decode host Item.ofNode? response <;> rfl

theorem listed_eq (partition : String) (response : Response) :
    listed host kind partition response =
      (decode host itemsOfNode? response).map fun items =>
        items.map fun item =>
          ⟨kind, item.name, item.partition.getD partition, item.tag⟩ := by
  unfold listed
  cases decode host itemsOfNode? response <;> rfl

variable {access : Access} {trail : Trail Http}

theorem delete_settles {resource : Resource} {result : Except DeviceError Unit} :
    (delete access host resource).Yields trail result → ∃ response, Comes trail response ∧
      Settles host resource.kind resource.name (fun response _ => Succeeds response) response
        result := by
  have finish (settled : Except DeviceError Response) :
      (settled.map fun _ => ()) = settled.bind fun _ => .ok () := by
    cases settled <;> rfl
  simp only [delete, Program.note, Program.bind_eq, Program.bind, Program.pure_eq_done,
    Program.Yields, finish]
  have accepts (response : Response) (success : Succeeds response) (value : Unit) :
      (Except.ok () : Except DeviceError Unit) = .ok value ↔ Succeeds response :=
    iff_of_true rfl success
  refine settles_of_send accepts ?_ fun _ _ success => success
  intro _ _ failed
  cases failed

theorem create_settles {payload : Json} {result : Except DeviceError Resource} :
    (create access host kind payload).Yields trail result → ∃ response, Comes trail response ∧
      Settles host kind (Request.payloadName payload) (MeansObject kind) response result := by
  simp only [create, Program.note, Program.bind_eq, Program.bind, Program.pure_eq_done,
    Program.Yields, funext created_eq]
  exact settles_of_send (fun _ success _ => decode_map_eq_ok_iff ofNode?_iff success)
    (fun _ _ => decode_map_error) fun _ _ => succeeds_of_said

theorem list_settles {partition : String} {result : Except DeviceError (List Resource)} :
    (list access host kind partition).Yields trail result → ∃ response, Comes trail response ∧
      Settles host kind partition (MeansObjects kind partition) response result := by
  simp only [list, Program.note, Program.bind_eq, Program.bind, Program.pure_eq_done,
    Program.Yields, funext (listed_eq partition)]
  exact settles_of_send (fun _ success _ => decode_map_eq_ok_iff itemsOfNode?_iff success)
    (fun _ _ => decode_map_error) fun _ _ => succeeds_of_said

theorem probe_settles {result : Except DeviceError Bool} :
    (probe access host kind name).Yields trail result → ∃ response, Comes trail response ∧
      Settles host kind name MeansPresence response result := by
  simp only [probe, Program.note, Program.bind_eq, Program.bind, Program.pure_eq_done,
    Program.Yields]
  exact settles_of_probed

def ShowsNone : Sight Http → Prop
  | .asked _ response => ∃ given ∈ response, Says given IsCollection []
  | _ => False

theorem list_shows_none {partition : String} :
    (list access host kind partition).Yields trail (.ok []) →
      ∃ sight, trail = [sight] ∧ ShowsNone sight := by
  refine Function.comp ?_ list_settles
  rintro ⟨response, comes, settles⟩
  obtain ⟨given, own, items, told, same⟩ := (settles.ok []).mp rfl
  obtain rfl := List.map_eq_nil_iff.mp same.symm
  cases comes with
  | unsent => cases own
  | answered request => exact ⟨_, rfl, given, own, told⟩

theorem carried_shows_none {client : Client Http} {partition : String} {kinds : List Kind}
    (shows : ∀ kind part, (client (.list host kind partition)).Yields part (.ok []) →
      ∃ sight, part = [sight] ∧ ShowsNone sight)
    (carried : @Program.Carried Backend Http client
      (kinds.map fun kind => .asked (.list host kind partition) (.ok [])) trail) :
    trail.length = kinds.length ∧ ∀ sight ∈ trail, ShowsNone sight := by
  induction kinds generalizing trail with
  | nil =>
      cases carried
      exact ⟨rfl, nofun⟩
  | cons kind kinds ih =>
      rw [List.map_cons] at carried
      cases carried with
      | asked work goes =>
          obtain ⟨sight, rfl, shown⟩ := shows kind _ work
          obtain ⟨length, others⟩ := ih goes
          refine ⟨?_, List.forall_mem_cons.mpr ⟨shown, others⟩⟩
          rw [List.singleton_append, List.length_cons, List.length_cons, length]

theorem lacks_shows_none {client : Client Http} {partition : String} {kinds : List Kind}
    (shows : ∀ kind part, (client (.list host kind partition)).Yields part (.ok []) →
      ∃ sight, part = [sight] ∧ ShowsNone sight)
    (taken : ((Catalog.lacks host partition kinds).run.via client).Yields trail (.ok true)) :
    trail.length = kinds.length ∧ ∀ sight ∈ trail, ShowsNone sight := by
  obtain ⟨inner, empty, carried⟩ := Program.yields_via taken
  obtain rfl := Teardown.lacks_succeeds_iff.mp empty
  exact carried_shows_none shows carried

/-- The response to every request decides its result. -/
theorem responses_decide (access : Access) (host : String) (kind : Kind) :
    (∀ name trail result, (probe access host kind name).Yields trail result →
      ∃ response, Comes trail response ∧ Settles host kind name MeansPresence response result) ∧
    (∀ payload trail result, (create access host kind payload).Yields trail result →
      ∃ response, Comes trail response ∧
        Settles host kind (Request.payloadName payload) (MeansObject kind) response result) ∧
    (∀ partition trail result, (list access host kind partition).Yields trail result →
      ∃ response, Comes trail response ∧
        Settles host kind partition (MeansObjects kind partition) response result) ∧
    (∀ resource trail result, (delete access host resource).Yields trail result →
      ∃ response, Comes trail response ∧
        Settles host resource.kind resource.name (fun response _ => Succeeds response) response
          result) ∧
    (∀ node other item, Agree ["name", "partition", "tag"] node other →
      (IsItem node item ↔ IsItem other item)) ∧
    (∀ node other items, Agree ["items"] node other →
      (IsCollection node items ↔ IsCollection other items)) ∧
    ∀ gateway partition trail,
      ((Catalog.isEmpty host partition).run.via (Gateway.client gateway)).Yields trail (.ok true) →
        trail.length = Kind.loadBearing.length ∧ ∀ sight ∈ trail, ShowsNone sight := by
  refine ⟨fun _ _ _ => probe_settles, fun _ _ _ => create_settles, fun _ _ _ => list_settles,
    fun _ _ _ => delete_settles, fun node other item agree => ?_, fun node other items agree => ?_,
    fun _ _ _ => lacks_shows_none fun _ _ => list_shows_none⟩
  · rw [← ofNode?_iff, ← ofNode?_iff, ofNode?_congr agree]
  · rw [← itemsOfNode?_iff, ← itemsOfNode?_iff, itemsOfNode?_congr agree]

end

def nodesRequest : Web.HttpRequest :=
  ⟨.get, ⟨"http", none, some "h".toList, none, "/mgmt/tm/ltm/node".toList,
    some "%24filter=partition+eq+P".toList, none⟩, [("admin", "secret")], none⟩

def nodesResponse : Response :=
  ⟨200, "\x7b\"items\":[\x7b\"name\":\"n\",\"partition\":null,\"x\":[1e999]\x7d]\x7d".toUTF8.toList,
    true⟩

theorem list_yields_nodes :
    (list ⟨"http", "admin", "secret"⟩ "h" .node "P").Yields
      [.asked nodesRequest (some nodesResponse)] (.ok [⟨.node, "n", "P", none⟩]) := by
  have prepared : Web.prepare (collectionUrl ⟨"http", "admin", "secret"⟩ "h" .node)
      [("$filter", "partition eq " ++ "P")] = .ok (nodesRequest.url, none) :=
    Web.prepare_pair.mpr ⟨{ nodesRequest.url with query := none }, by decide +kernel, rfl,
      by decide +kernel, by decide +kernel, rfl⟩
  simp only [list, send, Web.send, prepared, Program.note, Program.bind_eq, Program.bind,
    Program.pure_eq_done, Program.Yields]
  refine ⟨some nodesResponse, [], rfl, rfl, ?_⟩
  decide +kernel

theorem responses_decide_nodes :
    (list ⟨"http", "admin", "secret"⟩ "h" .node "P").Yields
        [.asked nodesRequest (some nodesResponse)] (.ok [⟨.node, "n", "P", none⟩]) ∧
      ∃ response, Comes [.asked nodesRequest (some nodesResponse)] response ∧
        Settles "h" .node "P" (MeansObjects .node "P") response
          (.ok [⟨.node, "n", "P", none⟩]) := by
  obtain ⟨-, -, decided, -⟩ := responses_decide ⟨"http", "admin", "secret"⟩ "h" .node
  refine ⟨list_yields_nodes, decided "P" _ _ ?_⟩
  exact list_yields_nodes

end DeviceApi

end Tenancy
