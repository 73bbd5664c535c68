import Tenancy.DeviceApi
import Tenancy.Proofs.Web.Url

/-!
The routes of the appliances' API as the other end reads them: method, path and filter of a request
tell what is asked. Requests whose hosts are valid and whose names are words are read as they were
meant.
-/

namespace Tenancy

open Text (IsWord)
open Web (HttpRequest IsHost IsScheme Method Url)
open Web.Path (AreSound)

namespace Request

def IsPlain (scheme : String) : Request → Prop
  | probe host _ name => IsHost scheme host ∧ IsWord name
  | create host _ _ => IsHost scheme host
  | list host _ partition => IsHost scheme host ∧ IsWord partition
  | delete host resource => IsHost scheme host ∧ IsWord resource.partition ∧ IsWord resource.name
  | releasePort _ | releaseTag .. => True

end Request

/-- What the address of an object tells of it: not its tag, and of a folder only the name. -/
def Resource.told (resource : Resource) : Resource :=
  if resource.kind = .folder then .folder resource.name else { resource with tag := none }

def Request.told : Request → Request
  | delete host resource => delete host resource.told
  | probe host kind name => probe host kind name
  | create host kind payload => create host kind payload
  | list host kind partition => list host kind partition
  | releasePort port => releasePort port
  | releaseTag host tag => releaseTag host tag

namespace DeviceApi

def kindOf? (text : List Char) : Option Kind :=
  Kind.all.find? fun kind => (collection kind).toList == text

def place? (path : List Char) : Option (Kind × Option (List Char)) :=
  match Text.cut (· == '/') path with
  -- The path begins with a slash, so nothing stands before the first cut.
  | [] :: base :: api :: area :: sort :: rest => do
      guard (base = "mgmt".toList && api = "tm".toList)
      let kind ← kindOf? (area ++ '/' :: sort)
      match rest with
      | [] => return (kind, none)
      | [mark :: object] => if mark = '~' then return (kind, some object) else none
      | _ => none
  | _ => none

def resource? (kind : Kind) (object : List Char) : Option Resource :=
  match Text.cut (· == '~') object with
  | [name] => if kind = .folder then return .folder (String.ofList name) else none
  | [partition, name] =>
      if kind = .folder then none
      else return ⟨kind, String.ofList name, String.ofList partition, none⟩
  | _ => none

def filter? (query : List Char) : Option String := do
  let wanted ← (Text.Form.pairs query).lookup "$filter"
  let partition ← List.isPrefixOf? "partition eq ".toList wanted.toList
  return String.ofList partition

def request? (host : String) (kind : Kind) (object : Option (List Char)) (request : HttpRequest) :
    Option Request := do
  match request.method, object with
  | .get, none => return .list host kind (← filter? (← request.url.query))
  | .get, some name => return .probe host kind (String.ofList name)
  | .post, none => return .create host kind (← request.body)
  | .delete, some object => return .delete host (← resource? kind object)
  | _, _ => none

def read? (request : HttpRequest) : Option Request := do
  let (kind, object) ← place? request.url.path
  request? (String.ofList (request.url.writeAuthority.drop 2)) kind object request

def route (kind : Kind) : List (List Char) :=
  Text.cut (· == '/') ("mgmt/tm/" ++ collection kind).toList

theorem collectionUrl_eq (access : Access) (host : String) (kind : Kind) :
    collectionUrl access host kind =
      access.scheme ++ "://" ++ host ++ String.ofList (Web.Path.join (route kind)) := by
  have path : "/mgmt/tm/" ++ collection kind = String.ofList (Web.Path.join (route kind)) := by
    cases kind <;> rfl
  rw [← path, collectionUrl, ← String.append_assoc]

theorem collectionUrl_object (access : Access) (host : String) (kind : Kind) (object : String) :
    collectionUrl access host kind ++ "/~" ++ object =
      access.scheme ++ "://" ++ host ++
        String.ofList (Web.Path.join (route kind ++ ['~' :: object.toList])) := by
  rw [collectionUrl_eq]
  apply String.toList_inj.mp
  simp [Web.Path.join]

theorem route_sound (kind : Kind) : AreSound (route kind) := by
  constructor
  · cases kind <;> decide
  · intro segment member
    refine Text.forall_of_all ?_
    revert segment
    cases kind <;> decide
  · cases kind <;> decide

theorem marked_ordinary (object : List Char) :
    Web.Path.isSingleDot ('~' :: object) = false ∧ Web.Path.isDoubleDot ('~' :: object) = false := by
  have other {text : String} (head : text.toList.head? ≠ some '~') :
      String.ofList (Web.Name.lower ('~' :: object)) ≠ text := by
    rintro rfl
    exact head (by rw [String.toList_ofList]; rfl)
  simp only [Web.Path.isSingleDot, Web.Path.isDoubleDot, List.contains_eq_mem,
    decide_eq_false_iff_not, List.mem_cons, List.not_mem_nil, or_false, not_or]
  exact ⟨⟨other (by decide), other (by decide)⟩, other (by decide), other (by decide),
    other (by decide), other (by decide)⟩

theorem object_sound {object : List Char} (stand : ∀ character ∈ object, Web.Path.stands character)
    (kind : Kind) : AreSound (route kind ++ ['~' :: object]) := by
  have sound := route_sound kind
  refine ⟨by simp, List.forall_mem_append.mpr ⟨sound.stand, ?_⟩,
    List.forall_mem_append.mpr ⟨sound.ordinary, ?_⟩⟩
  · rw [List.forall_mem_singleton, List.forall_mem_cons]
    exact ⟨by decide, stand⟩
  · rw [List.forall_mem_singleton]
    exact marked_ordinary object

theorem cut_join_of_sound {segments : List (List Char)} (sound : AreSound segments) :
    Text.cut (· == '/') (Web.Path.join segments) = [] :: segments :=
  Web.Path.cut_slash_join sound.nonempty fun own member inside =>
    (Web.Path.keeps_of_stands (sound.stand own member '/' inside)).2.1 rfl

theorem place?_collection (kind : Kind) :
    place? (Web.Path.join (route kind)) = some (kind, none) := by
  cases kind <;> rfl

theorem place?_object (kind : Kind) {object : List Char}
    (stand : ∀ character ∈ object, Web.Path.stands character) :
    place? (Web.Path.join (route kind ++ ['~' :: object])) = some (kind, some object) := by
  rw [place?, cut_join_of_sound (object_sound stand kind)]
  cases kind <;> rfl

variable {access : Access} {host : String} {kind : Kind} {segments : List (List Char)}

inductive Carries {α : Type} (request : Request) (reading : Web.Response → Except DeviceError α) :
    Program Web.Http (Except DeviceError α) → Prop
  | intro (event query next) (read : read? query = some request)
      (reads : ∀ response, next (some response) = .done (reading response)) :
      Carries request reading (.write event (.ask query next))

def formOf (pair : Option (String × String)) : Option (List Char) :=
  pair.map fun pair => Text.Form.encodePair pair.1 pair.2

theorem carries_of_send {α : Type} (web : IsScheme access.scheme)
    (valid : IsHost access.scheme host) (sound : AreSound segments) {kind : Kind} {name : String}
    {method : Method} {body : Option Json} {event : Event} {request : Request}
    (pair : Option (String × String))
    (reading : Except DeviceError Web.Response → Except DeviceError α)
    (short : (access.scheme ++ "://" ++ host ++ String.ofList (Web.Path.join segments) ++
      String.ofList (((formOf pair).map ('?' :: ·)).getD [])).utf8ByteSize ≤ Web.longest)
    (read : ∀ place port, Url.writePlace place port = host.toList →
      read? ⟨method, Url.plain access.scheme place port segments (formOf pair),
        [(access.username, access.password)], body⟩ = some request) :
    Carries request (fun response => reading (classify host kind name response))
      (.write event ((send access host kind name method
        (access.scheme ++ "://" ++ host ++ String.ofList (Web.Path.join segments)) pair.toList
        body).bind fun result => .done (reading result))) := by
  obtain ⟨place, port, written, prepared⟩ := Web.prepare_plain web valid sound pair
  have fits : (Url.plain access.scheme place port segments (formOf pair)).write.utf8ByteSize ≤
      Web.longest := by
    rw [Url.write_plain written]
    exact short
  have ready := prepared.trans (if_pos fits)
  simp only [send, Web.send, ready, Program.bind_eq, Program.bind]
  exact .intro event _ _ (read place port written) fun response => rfl

theorem read?_plain {place : List Char} {port : Option Nat}
    (written : Url.writePlace place port = host.toList) {object : Option (List Char)}
    (placed : place? (Web.Path.join segments) = some (kind, object)) (method : Method)
    (query : Option (List Char)) (credentials : List (String × String)) (body : Option Json) :
    read? ⟨method, Url.plain access.scheme place port segments query, credentials, body⟩ =
      request? host kind object
        ⟨method, Url.plain access.scheme place port segments query, credentials, body⟩ := by
  have named : String.ofList
      ((Url.plain access.scheme place port segments query).writeAuthority.drop 2) = host := by
    rw [Url.writeAuthority_plain, List.drop_succ_cons, List.drop_succ_cons, List.drop_zero, written,
      String.ofList_toList]
  have path : (Url.plain access.scheme place port segments query).path =
      Web.Path.join segments := rfl
  rw [read?, path, placed, named]
  rfl

def address (access : Access) : Request → String
  | .probe host kind name => collectionUrl access host kind ++ "/~" ++ name
  | .create host kind _ => collectionUrl access host kind
  | .list host kind partition =>
      collectionUrl access host kind ++ "?%24filter=partition+eq+" ++ partition
  | .delete host resource => objectUrl access host resource
  | .releasePort _ | .releaseTag .. => ""

def Fits (access : Access) (request : Request) : Prop :=
  (address access request).utf8ByteSize ≤ Web.longest

instance (access : Access) (request : Request) : Decidable (Fits access request) :=
  inferInstanceAs (Decidable (_ ≤ _))

theorem stands_of_word {text : String} (word : IsWord text) :
    ∀ character ∈ text.toList, Web.Path.stands character :=
  fun character member => Web.Path.stands_of_inWord (word.plain character member)

variable {name partition : String}

theorem probe_carries (web : IsScheme access.scheme)
    (plain : (Request.probe host kind name).IsPlain access.scheme)
    (fits : Fits access (.probe host kind name)) :
    Carries (.probe host kind name) (fun response => probed (classify host kind name response))
      (probe access host kind name) := by
  obtain ⟨valid, word⟩ := plain
  have stand := stands_of_word word
  rw [Fits, address, collectionUrl_object] at fits
  simp only [probe, collectionUrl_object, Program.note, Program.bind_eq, Program.bind]
  refine carries_of_send web valid (object_sound stand kind) none probed ?_
    fun place port written => ?_
  · simpa [formOf] using fits
  · have same : String.ofList name.toList = name := String.ofList_toList
    exact (read?_plain written (place?_object kind stand) ..).trans
      (congrArg (fun name => some (Request.probe host kind name)) same)

theorem probe_unsent (web : IsScheme access.scheme)
    (plain : (Request.probe host kind name).IsPlain access.scheme)
    (long : ¬ Fits access (.probe host kind name)) :
    ∃ event message,
      probe access host kind name = .write event (.done (.error (.other host message))) := by
  obtain ⟨valid, word⟩ := plain
  rw [Fits, address, collectionUrl_object] at long
  obtain ⟨place, port, written, prepared⟩ :=
    Web.prepare_plain web valid (object_sound (stands_of_word word) kind) none
  have tooLong : ¬ (Url.plain access.scheme place port (route kind ++ ['~' :: name.toList])
      none).write.utf8ByteSize ≤ Web.longest := by
    rw [Url.write_plain written]
    simpa using long
  have unready := prepared.trans (if_neg tooLong)
  rw [Option.toList] at unready
  simp only [probe, collectionUrl_object, Program.note, Program.bind_eq, Program.bind, send,
    Web.send, unready]
  exact ⟨_, _, rfl⟩

theorem create_carries (web : IsScheme access.scheme) {payload : Json}
    (valid : (Request.create host kind payload).IsPlain access.scheme)
    (fits : Fits access (.create host kind payload)) :
    Carries (.create host kind payload)
      (fun response => (classify host kind (Request.payloadName payload) response).bind
        (created host kind))
      (create access host kind payload) := by
  rw [Fits, address, collectionUrl_eq] at fits
  simp only [create, collectionUrl_eq, Program.note, Program.bind_eq, Program.bind]
  refine carries_of_send web valid (route_sound kind) none (·.bind (created host kind)) ?_
    fun place port written => ?_
  · simpa [formOf] using fits
  · exact read?_plain written (place?_collection kind) ..

theorem isPrefixOf?_append (text rest : List Char) :
    List.isPrefixOf? text (text ++ rest) = some rest := by
  induction text with
  | nil => rfl
  | cons character text ih =>
      change (if character == character then List.isPrefixOf? text (text ++ rest) else none) = _
      rw [if_pos (beq_self_eq_true character), ih]

theorem filter?_form (partition : String) :
    filter? (Text.Form.encodePair "$filter" ("partition eq " ++ partition)) = some partition := by
  rw [filter?, Text.Form.pairs_encodePair]
  have found : [("$filter", "partition eq " ++ partition)].lookup "$filter" =
      some ("partition eq " ++ partition) := rfl
  rw [found, Option.bind_eq_bind, Option.bind_some, String.toList_append, isPrefixOf?_append,
    Option.bind_eq_bind, Option.bind_some, String.ofList_toList]
  rfl

theorem form_of_wanted (word : IsWord partition) :
    String.ofList ('?' :: Text.Form.encodePair "$filter" ("partition eq " ++ partition)) =
      "?%24filter=partition+eq+" ++ partition := by
  have value : Text.Form.encode ("partition eq " ++ partition) =
      "partition+eq+".toList ++ partition.toList := by
    rw [← word.form_encode, Text.Form.encode, String.toList_append, List.flatMap_append]
    rfl
  apply String.toList_inj.mp
  rw [String.toList_ofList, String.toList_append, Text.Form.encodePair, value]
  rfl

theorem list_carries (web : IsScheme access.scheme)
    (plain : (Request.list host kind partition).IsPlain access.scheme)
    (fits : Fits access (.list host kind partition)) :
    Carries (.list host kind partition)
      (fun response => (classify host kind partition response).bind (listed host kind partition))
      (list access host kind partition) := by
  obtain ⟨valid, word⟩ := plain
  rw [Fits, address, collectionUrl_eq, String.append_assoc, ← form_of_wanted word] at fits
  simp only [list, collectionUrl_eq, Program.note, Program.bind_eq, Program.bind]
  refine carries_of_send web valid (route_sound kind)
    (some ("$filter", "partition eq " ++ partition)) (·.bind (listed host kind partition)) fits
    fun place port written => (read?_plain written (place?_collection kind) ..).trans ?_
  simp only [request?, Url.plain, formOf, Option.map_some, Option.bind_eq_bind, Option.bind_some,
    filter?_form partition]
  rfl

def objectText (resource : Resource) : String :=
  if resource.kind = .folder then resource.name else resource.partition ++ "~" ++ resource.name

variable {resource : Resource}

theorem stands_of_object (partition : IsWord resource.partition) (name : IsWord resource.name) :
    ∀ character ∈ (objectText resource).toList, Web.Path.stands character := by
  unfold objectText
  split
  · exact stands_of_word name
  · rw [String.toList_append, String.toList_append, List.forall_mem_append, List.forall_mem_append]
    exact ⟨⟨stands_of_word partition, Text.forall_of_all (by decide)⟩, stands_of_word name⟩

theorem resource?_objectText (partition : IsWord resource.partition)
    (name : IsWord resource.name) :
    resource? resource.kind (objectText resource).toList = some resource.told := by
  have unmarked {text : String} (word : IsWord text) :
      ∀ character ∈ text.toList, (character == '~') = false := by
    intro character member
    rw [beq_eq_false_iff_ne]
    rintro rfl
    exact absurd (word.plain '~' member) (by decide)
  unfold objectText Resource.told
  split
  next folder =>
    rw [resource?, Text.cut_of_forall (unmarked name)]
    simp [folder]
  next other =>
    have parts : (resource.partition ++ "~" ++ resource.name).toList =
        resource.partition.toList ++ '~' :: resource.name.toList := by simp
    rw [parts, resource?, Text.cut_append _ (unmarked partition) rfl,
      Text.cut_of_forall (unmarked name)]
    simp [other]

theorem delete_carries (web : IsScheme access.scheme)
    (plain : (Request.delete host resource).IsPlain access.scheme)
    (fits : Fits access (.delete host resource)) :
    Carries (Request.delete host resource).told
      (fun response => (classify host resource.kind resource.name response).map fun _ => ())
      (delete access host resource) := by
  obtain ⟨valid, partition, name⟩ := plain
  have stand := stands_of_object partition name
  have url : objectUrl access host resource = access.scheme ++ "://" ++ host ++
      String.ofList (Web.Path.join (route resource.kind ++ ['~' :: (objectText resource).toList])) :=
    collectionUrl_object access host resource.kind (objectText resource)
  rw [Fits, address, url] at fits
  simp only [delete, url, Program.note, Program.bind_eq, Program.bind]
  refine carries_of_send web valid (object_sound stand resource.kind) none (·.map fun _ => ()) ?_
    fun place port written =>
      (read?_plain written (place?_object resource.kind stand) ..).trans ?_
  · simpa [formOf] using fits
  · simp only [request?, resource?_objectText partition name, Option.bind_eq_bind,
      Option.bind_some]
    rfl

end DeviceApi

end Tenancy
