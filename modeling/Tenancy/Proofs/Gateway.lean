import Tenancy.Gateway
import Tenancy.Proofs.DeviceApi.Addresses
import Tenancy.Proofs.Web.Query

/-!
What the clients tell in queries: the partition of a listing, the port and the host of a release.
Whatever these texts hold, the other end reads them as they are.
-/

namespace Tenancy

open DeviceApi (requested)
open Web (HttpFailure HttpRequest Method Response Url)

theorem Web.requested_send {α : Type} {answer : HttpRequest → Option Response} {method : Method}
    {text : String} {pairs credentials : List (String × String)} {body : Option Json}
    {finish : Except HttpFailure Response → Program Web.Http α}
    (silent : ∀ result, requested answer (finish result) = []) :
    requested answer ((Web.send method text pairs credentials body).bind finish) =
      match Web.prepare text pairs with
      | .ok (url, _) => [(method, url)]
      | .error _ => [] := by
  unfold Web.send
  cases Web.prepare text pairs with
  | error failure => exact silent _
  | ok prepared =>
      simp only [Program.bind, requested]
      cases answer _ with
      | none => exact congrArg (List.cons _) (silent _)
      | some response => exact congrArg (List.cons _) (silent _)

structure Tells (method : Method) (text name : String) (worded : String → String)
    (requests : String → List (Method × Url)) : Prop where
  sent : ∀ value own, Url.read? text = some own → own.host.all List.isEmpty = false →
    Web.speaks ({ own with user := none }.withPair name (worded value)) →
    ∃ url, requests value = [(method, url)]
  once : ∀ value, (requests value).length ≤ 1
  told : ∀ value, ∀ request ∈ requests value, ∃ own, Url.read? text = some own ∧
    request.2.parameters = own.parameters ++ [(name, worded value)]
  alone : '?' ∉ text.toList → ∀ value, ∀ request ∈ requests value,
    request.2.parameters = [(name, worded value)]
  apart : ∀ first second, ∀ one ∈ requests first, ∀ other ∈ requests second,
    one.2.target = other.2.target → first = second

theorem tells_of_requests {method : Method} {text name : String} {worded : String → String}
    {requests : String → List (Method × Url)}
    (injective : ∀ first second, worded first = worded second → first = second)
    (same : ∀ value, requests value =
      match Web.prepare text [(name, worded value)] with
      | .ok (url, _) => [(method, url)]
      | .error _ => []) :
    Tells method text name worded requests := by
  -- A request that is sent stems from the one URL that the text is read as.
  have origin {value : String} {request : Method × Url} (member : request ∈ requests value) :
      ∃ own, Url.read? text = some own ∧
        request.2 = { own with user := none }.withPair name (worded value) := by
    rw [same] at member
    split at member
    next url user prepared =>
      obtain rfl := List.mem_singleton.mp member
      obtain ⟨own, read, -, built, -, -⟩ := Web.prepare_pair.mp prepared
      exact ⟨own, read, built⟩
    next => cases member
  have parameters (own : Url) (value : String) :
      ({ own with user := none }.withPair name (worded value)).parameters =
        own.parameters ++ [(name, worded value)] :=
    Url.parameters_withPair { own with user := none } name (worded value)
  refine ⟨?sent, ?once, ?told, ?alone, ?apart⟩
  case sent =>
    intro value own read named spoken
    rw [same, Web.prepare_pair.mpr ⟨own, read, named, rfl, spoken, rfl⟩]
    exact ⟨_, rfl⟩
  case once =>
    intro value
    rw [same]
    split <;> simp
  case told =>
    intro value request member
    obtain ⟨own, read, built⟩ := origin member
    exact ⟨own, read, built ▸ parameters own value⟩
  case alone =>
    intro markless value request member
    obtain ⟨own, read, built⟩ := origin member
    rw [built, parameters, Url.parameters_of_no_query (Url.query_of_read? markless read),
      List.nil_append]
  case apart =>
    intro first second one member other memberToo targets
    obtain ⟨own, read, built⟩ := origin member
    obtain ⟨_, again, builtToo⟩ := origin memberToo
    obtain rfl := Option.some.inj (again.symm.trans read)
    rw [built, builtToo] at targets
    exact injective first second (Url.withPair_inj targets)

namespace Gateway

variable (answer : HttpRequest → Option Response)

theorem tells_list (access : DeviceApi.Access) (host : String) (kind : Kind) :
    Tells .get (DeviceApi.collectionUrl access host kind) "$filter" ("partition eq " ++ ·)
      fun partition => requested answer (DeviceApi.list access host kind partition) := by
  refine tells_of_requests (fun first second same => String.append_right_inj _ |>.mp same)
    fun partition => ?_
  simp only [DeviceApi.list, DeviceApi.send, Program.note, Program.bind_eq, Program.bind, requested,
    Program.bind_assoc]
  rw [Web.requested_send fun _ => rfl]

theorem tells_releasePort (endpoint : String) :
    Tells .delete (base endpoint ++ "/ports") "name" id
      fun port => requested answer (releasePort (some endpoint) port) := by
  refine tells_of_requests (fun _ _ same => same) fun port => ?_
  simp only [releasePort, Program.note, Program.bind_eq, Program.bind, Program.pure_eq_done,
    requested, id_eq]
  rw [Web.requested_send fun _ => rfl]

theorem tells_releaseTag (endpoint : String) (tag : UInt16) :
    Tells .delete (base endpoint ++ "/networks/" ++ toString tag.toNat) "device" id
      fun host => requested answer (releaseTag (some endpoint) host tag) := by
  refine tells_of_requests (fun _ _ same => same) fun host => ?_
  simp only [releaseTag, Program.note, Program.bind_eq, Program.bind, Program.pure_eq_done,
    requested, id_eq]
  rw [Web.requested_send]
  intro result
  split <;> rfl

theorem base_append_slashes (endpoint : String) (count : Nat) :
    base (endpoint ++ String.ofList (List.replicate count '/')) = base endpoint := by
  rw [base, base, String.toList_append, String.toList_ofList, List.reverse_append,
    List.reverse_replicate, List.dropWhile_append_of_pos]
  exact fun character member => beq_iff_eq.mpr (List.eq_of_mem_replicate member)

/-- Values told in queries are read as they are, and the endpoints' last slashes do not matter. -/
theorem parameters_survive :
    (∀ access host kind,
      Tells .get (DeviceApi.collectionUrl access host kind) "$filter" ("partition eq " ++ ·)
        fun partition => requested answer (DeviceApi.list access host kind partition)) ∧
    (∀ endpoint, Tells .delete (base endpoint ++ "/ports") "name" id
      fun port => requested answer (releasePort (some endpoint) port)) ∧
    (∀ endpoint tag, Tells .delete (base endpoint ++ "/networks/" ++ toString tag.toNat) "device" id
      fun host => requested answer (releaseTag (some endpoint) host tag)) ∧
    ∀ endpoint count port host tag,
      let slashed := endpoint ++ String.ofList (List.replicate count '/')
      releasePort (some slashed) port = releasePort (some endpoint) port ∧
        releaseTag (some slashed) host tag = releaseTag (some endpoint) host tag := by
  refine ⟨tells_list answer, tells_releasePort answer, tells_releaseTag answer,
    fun endpoint count port host tag => ?_⟩
  simp only [releasePort, releaseTag, base_append_slashes, and_self]

example : requested (fun _ => none) (releasePort (some "http://plugin:8080//") "a&b = ü+%") =
    [(.delete, ⟨"http", none, some "plugin".toList, some 8080, "/ports".toList,
      some "name=a%26b+%3D+%C3%BC%2B%25".toList, none⟩)] := by
  decide +kernel

/-- An endpoint with a query of its own has it told beside the port. -/
theorem parameters_beside_own :
    requested (fun _ => none) (releasePort (some "http://p?x=1") "a") =
      [(.delete, ⟨"http", none, some "p".toList, none, "/".toList,
        some "x=1/ports&name=a".toList, none⟩)] ∧
    Url.parameters ⟨"http", none, some "p".toList, none, "/".toList,
      some "x=1/ports&name=a".toList, none⟩ = [("x", "1/ports"), ("name", "a")] := by
  decide +kernel

end Gateway

end Tenancy
