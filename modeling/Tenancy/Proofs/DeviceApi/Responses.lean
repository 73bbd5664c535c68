import Tenancy.Proofs.DeviceApi.Reading
import Tenancy.Proofs.Text
import Tenancy.Proofs.Tolerance

/-!
Responses that tell the truth: the status gives the class of an answer, and the body shows the
objects that are listed. They are free in what they leave out and in what they show besides. The
client reads the answer from them again, but for the text of failures.
-/

namespace Tenancy

open Json (Field Layout Node)
open Web (Response)

open Json.Node (AreNamed Members valuesOf)

namespace DeviceApi

/-- An item shows an object in the listing of a partition. It may leave out a partition that is the
one asked for, and a tag that is none. -/
structure Shows (partition : String) (resource : Resource) (members : Members) : Prop where
  named : AreNamed members
  name : valuesOf "name" members = [.string (some resource.name)]
  partition : valuesOf "partition" members = [.string (some resource.partition)] ∨
    valuesOf "partition" members = [] ∧ resource.partition = partition
  tag : (∃ tag, resource.tag = some tag ∧
      valuesOf "tag" members = [.number (Nat.toDigits 10 tag.toNat)]) ∨
    resource.tag = none ∧ (valuesOf "tag" members = [] ∨ valuesOf "tag" members = [.null])

structure Lists (partition : String) (resources : List Resource) (members : Members) : Prop where
  named : AreNamed members
  items : valuesOf "items" members = [] ∧ resources = [] ∨
    ∃ items : List Members, valuesOf "items" members = [.array (items.map .object)] ∧
      List.Forall₂ (Shows partition) resources items

def HasBody (response : Response) (members : Members) : Prop :=
  response.complete ∧ Node.read? response.body = some (.object members)

def Refuses (response : Response) : DeviceError → Prop
  | .authExpired .. => response.status = 401
  | .notFound .. => response.status = 404
  | .other .. =>
      Web.Status.isSuccess response.status = false ∧ response.status ≠ 401 ∧ response.status ≠ 404

/-- A response that tells an answer to a request. Of an object that was created any is shown. -/
def Tells (response : Response) : (request : Request) → request.Answer → Prop
  | .probe .., .ok true => Web.Status.isSuccess response.status
  | .probe .., .ok false => response.status = 404
  | .create .., .ok _ => Web.Status.isSuccess response.status ∧
      ∃ resource members, HasBody response members ∧ Shows resource.name resource members
  | .list _ _ partition, .ok resources => Web.Status.isSuccess response.status ∧
      ∃ members, HasBody response members ∧ Lists partition resources members
  | .delete .., .ok () => Web.Status.isSuccess response.status
  | .probe .., .error source => Refuses response source
  | .create .., .error source => Refuses response source
  | .list .., .error source => Refuses response source
  | .delete .., .error source => Refuses response source
  | .releasePort _, _ => False
  | .releaseTag .., _ => False

theorem tells_delete_iff {response : Response} {host : String} {resource other : Resource}
    {answer : Except DeviceError Unit} :
    Tells response (.delete host resource) answer ↔ Tells response (.delete host other) answer := by
  cases answer <;> rfl

theorem isTag_digits (tag : UInt16) : IsTag (.number (Nat.toDigits 10 tag.toNat)) tag :=
  ⟨_, rfl, List.all_eq_true.mpr fun _ member =>
      Nat.isDigit_of_mem_toDigits (by decide) (by decide) member,
    Nat.ofDigitChars_toDigits (by decide) (by decide)⟩

section

variable {partition : String} {resource : Resource} {members : Members}

theorem Shows.isItem (shows : Shows partition resource members) :
    ∃ item, IsItem (.object members) item ∧
      ∀ kind, item.resource kind partition = { resource with kind := kind } := by
  have placed : ∃ place, Given IsText (valuesOf "partition" members) place ∧
      place.getD partition = resource.partition := by
    obtain shown | ⟨omitted, same⟩ := shows.partition
    · exact ⟨some resource.partition, shown ▸ .value rfl, rfl⟩
    · exact ⟨none, omitted ▸ .missing, same.symm⟩
  have marked : Given IsTag (valuesOf "tag" members) resource.tag := by
    obtain ⟨tag, tagged, shown⟩ | ⟨untagged, omitted | null⟩ := shows.tag
    · rw [tagged, shown]
      exact .value (isTag_digits tag)
    · rw [untagged, omitted]
      exact .missing
    · rw [untagged, null]
      exact .null
  obtain ⟨place, given, same⟩ := placed
  refine ⟨⟨resource.name, place, resource.tag⟩, .object shows.named shows.name given marked, ?_⟩
  intro kind
  rw [Item.resource, same]

theorem areItems {resources : List Resource} {items : List Members}
    (shows : List.Forall₂ (Shows partition) resources items) :
    ∃ read, List.Forall₂ IsItem (items.map .object) read ∧
      ∀ kind, read.map (·.resource kind partition) =
        resources.map ({ · with kind := kind }) := by
  induction shows with
  | nil => exact ⟨[], .nil, fun _ => rfl⟩
  | cons first _ ih =>
      obtain ⟨item, own, same⟩ := first.isItem
      obtain ⟨read, rest, others⟩ := ih
      refine ⟨item :: read, .cons own rest, fun kind => ?_⟩
      rw [List.map_cons, List.map_cons, same, others]

theorem Lists.isCollection {resources : List Resource}
    (lists : Lists partition resources members) :
    ∃ read, IsCollection (.object members) read ∧
      ∀ kind, read.map (·.resource kind partition) =
        resources.map ({ · with kind := kind }) := by
  obtain ⟨absent, rfl⟩ | ⟨items, shown, shows⟩ := lists.items
  · exact ⟨[], .object lists.named (absent ▸ .missing), fun _ => rfl⟩
  · obtain ⟨read, known, same⟩ := areItems shows
    exact ⟨read, .object lists.named (shown ▸ .listed known), same⟩

end

end DeviceApi

namespace DeviceError

variable (aliases : List String)

/-- The same failure in other words, and from another host only where it was told in an alias. -/
inductive Reworded : DeviceError → DeviceError → Prop
  | authExpired {reporter detail host text} (own : reporter = host ∨ reporter ∈ aliases) :
      Reworded (.authExpired reporter detail) (.authExpired host text)
  | notFound (host kind name) : Reworded (.notFound host kind name) (.notFound host kind name)
  | other {reporter detail host text} (own : reporter = host ∨ reporter ∈ aliases) :
      Reworded (.other reporter detail) (.other host text)

def IsOf (host : String) : DeviceError → Prop
  | authExpired reporter _ => reporter = host ∨ reporter ∈ aliases
  | notFound .. => False
  | other reporter _ => reporter = host ∨ reporter ∈ aliases

end DeviceError

def Tolerance.reworded (aliases : List String) : Tolerance where
  near := DeviceError.Reworded aliases
  hears _ := false
  authExpired := by rintro _ _ ⟨⟩ <;> rfl
  notFound := by rintro _ _ ⟨⟩ <;> rfl
  debug := rfl
  plain := nofun

def Request.Expects (aliases : List String) : (request : Request) → request.Answer → Prop
  | .probe host _ _, answer => ∀ source, answer = .error source → source.IsOf aliases host
  | .create host _ _, answer => ∀ source, answer = .error source → source.IsOf aliases host
  | .list host kind _, answer =>
      (∀ source, answer = .error source → source.IsOf aliases host) ∧
        ∀ resources, answer = .ok resources → ∀ resource ∈ resources,
          resource.kind = kind ∧ Text.IsWord resource.partition ∧ Text.IsWord resource.name
  | .delete host _, answer =>
      ∀ source, answer = .error source → source.isNotFound ∨ source.IsOf aliases host
  | .releasePort _, _ => True
  | .releaseTag .., _ => True

namespace DeviceApi

variable {aliases : List String} {host name partition : String} {kind : Kind} {response : Response}

theorem classify_refused (kind : Kind) (name : String) {source : DeviceError}
    (own : source.IsOf aliases host) (refused : Refuses response source) :
    ∃ told, classify host kind name response = .error told ∧ source.Reworded aliases told ∧
      told.isNotFound = false := by
  cases source with
  | notFound => exact own.elim
  | authExpired reporter detail =>
      have status : response.status = 401 := refused
      refine ⟨.authExpired host response.text, ?_, .authExpired own, rfl⟩
      rw [classify, status]
      rfl
  | other reporter detail =>
      obtain ⟨failed, first, second⟩ := refused
      let text := kind.text ++ " " ++ Web.Status.text response.status ++ ": " ++ response.text
      refine ⟨.other host text, ?_, .other own, rfl⟩
      rw [classify, failed, if_neg first, if_neg second]
      rfl

theorem classify_missing (missing : response.status = 404) :
    classify host kind name response = .error (.notFound host kind name) := by
  rw [classify, missing]
  rfl

theorem classify_success (success : Web.Status.isSuccess response.status) :
    classify host kind name response = .ok response :=
  if_pos success

theorem decode_body {τ : Type} {members : Members} {ofNode? : Node → Option τ} {value : τ}
    (body : HasBody response members) (read : ofNode? (.object members) = some value) :
    decode host ofNode? response = .ok value := by
  have decoded : response.decode? ofNode? = some value := by
    rw [Response.decode?, if_pos body.1, body.2, Option.bind_some, read]
  rw [decode, decoded]

theorem probed_alike {answer : Except DeviceError Bool}
    (expected : Request.Expects aliases (.probe host kind name) answer)
    (tells : Tells response (.probe host kind name) answer) :
    (Tolerance.reworded aliases).alike (.probe host kind name) answer
      (probed (classify host kind name response)) := by
  rcases answer with source | _ | _
  · obtain ⟨told, refused, near, found⟩ :=
      classify_refused kind name (expected source rfl) tells
    rw [refused]
    cases told with
    | notFound => cases found
    | authExpired | other => exact .error near
  · rw [classify_missing tells]
    exact .ok rfl
  · rw [classify_success tells]
    exact .ok rfl

theorem created_alike {payload : Json} {answer : Except DeviceError Resource}
    (expected : Request.Expects aliases (.create host kind payload) answer)
    (tells : Tells response (.create host kind payload) answer) :
    (Tolerance.reworded aliases).alike (.create host kind payload) answer
      ((classify host kind name response).bind (created host kind)) := by
  cases answer with
  | error source =>
      obtain ⟨told, refused, near, -⟩ :=
        classify_refused kind name (expected source rfl) tells
      rw [refused]
      exact .error near
  | ok resource =>
      obtain ⟨success, shown, members, body, shows⟩ := tells
      obtain ⟨item, shown, -⟩ := shows.isItem
      rw [classify_success success, Except.bind, created,
        decode_body body ((ofNode?_iff _ item).mpr shown)]
      exact .ok trivial

theorem listed_alike {answer : Except DeviceError (List Resource)}
    (expected : Request.Expects aliases (.list host kind partition) answer)
    (tells : Tells response (.list host kind partition) answer) :
    (Tolerance.reworded aliases).alike (.list host kind partition) answer
      ((classify host kind partition response).bind (listed host kind partition)) := by
  cases answer with
  | error source =>
      obtain ⟨told, refused, near, -⟩ :=
        classify_refused kind partition (expected.1 source rfl) tells
      rw [refused]
      exact .error near
  | ok resources =>
      obtain ⟨success, members, body, lists⟩ := tells
      obtain ⟨items, shown, same⟩ := lists.isCollection
      have kinds : resources.map ({ · with kind := kind }) = resources := by
        refine (List.map_congr_left fun resource member => ?_).trans (List.map_id _)
        rw [← (expected.2 resources rfl resource member).1]
        rfl
      rw [classify_success success, Except.bind, listed,
        decode_body body ((itemsOfNode?_iff _ items).mpr shown)]
      refine .ok ?_
      rw [same, kinds]

theorem deleted_alike {resource : Resource} {answer : Except DeviceError Unit}
    (expected : Request.Expects aliases (.delete host resource) answer)
    (tells : Tells response (.delete host resource) answer) :
    (Tolerance.reworded aliases).alike (.delete host resource) answer
      ((classify host resource.kind resource.name response).map fun _ => ()) := by
  cases answer with
  | ok =>
      rw [classify_success tells]
      exact .inr (.ok rfl)
  | error source =>
      obtain missing | own := expected source rfl
      · cases source with
        | notFound =>
            rw [classify_missing tells]
            exact .inl ⟨rfl, rfl⟩
        | authExpired | other => cases missing
      · obtain ⟨told, refused, near, -⟩ :=
          classify_refused resource.kind resource.name own tells
        rw [refused]
        exact .inr (.error near)

end DeviceApi

end Tenancy
