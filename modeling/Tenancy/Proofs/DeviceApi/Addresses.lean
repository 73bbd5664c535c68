import Tenancy.Proofs.DeviceApi.Routes

/-!
Which objects the requests reach. The text of a URL is put together from texts as they are, so the
other end reads what was meant exactly if nothing in them has a meaning of its own there; and it can
tell all objects apart whose partitions do not hold the mark that ends them.
-/

namespace Tenancy

open Web (HttpRequest IsAuthority IsScheme Method Response Url)

/-- A text that the end of a URL takes for itself. -/
structure Web.IsLiteral (text : String) : Prop where
  clear : ∀ character ∈ text.toList, character ∉ "/\\?#\t\n\r".toList
  unescaped : Text.Percent.isUnescaped text.toList
  ends : Url.EndsPlainly text.toList

instance (text : String) : Decidable (Web.IsLiteral text) :=
  decidable_of_iff (text.toList.all (!"/\\?#\t\n\r".toList.contains ·) ∧
      Text.Percent.isUnescaped text.toList ∧ Url.EndsPlainly text.toList)
    ⟨fun ⟨clear, unescaped, ends⟩ => ⟨by simpa using clear, unescaped, ends⟩,
      fun literal => ⟨by simpa using literal.clear, literal.unescaped, literal.ends⟩⟩

namespace DeviceApi

open Web (IsLiteral)

def requested {α : Type} (answer : HttpRequest → Option Response) :
    Program Web.Http α → List (Method × Url)
  | .done _ => []
  | .write _ next => requested answer next
  | .ask (query : HttpRequest) next =>
      (query.method, query.url) :: requested answer (next (answer query))
  | .pause _ next => requested answer (next false)
  | .look next => requested answer (next false)

def segments (kind : Kind) (object : String) : List String :=
  (route kind).map String.ofList ++ ["~" ++ object]

/-- The other end takes a URL for the address of this object. -/
structure Means (url : Url) (kind : Kind) (object : String) : Prop where
  query : url.query = none
  path : Web.Path.heard url.path = "" :: segments kind object

def collectionPath (kind : Kind) : List Char := ("mgmt/tm/" ++ collection kind).toList

def urlOf (access : Access) (authority : Url.Authority) (kind : Kind) (object : String) : Url :=
  { Url.under access.scheme authority (collectionPath kind ++ '/' :: '~' :: object.toList) with
    user := none }

section

variable {access : Access} {host : String} {authority : Url.Authority} {kind : Kind}
  {object : String}

theorem collectionPath_clear (kind : Kind) :
    ∀ character ∈ collectionPath kind ++ ['/'],
      Url.isUnbroken character ∧ character ≠ '#' ∧ character ≠ '?' := by
  refine Text.forall_of_all ?_
  cases kind <;> decide

theorem join_route (kind : Kind) : Web.Path.join (route kind) = '/' :: collectionPath kind := by
  cases kind <;> rfl

theorem route_append_join (kind : Kind) (text : List Char) :
    Web.Path.join (route kind ++ ['~' :: text]) =
      '/' :: (collectionPath kind ++ '/' :: '~' :: text) := by
  rw [Web.Path.join, List.flatMap_append, ← Web.Path.join, join_route, List.flatMap_singleton,
    List.cons_append]

theorem cut_collectionPath (kind : Kind) (text : List Char) :
    Text.cut (Web.Path.isSlash true) (collectionPath kind ++ '/' :: text) =
      route kind ++ Text.cut (Web.Path.isSlash true) text := by
  have sound := route_sound kind
  have joined := join_route kind
  obtain ⟨segment, segments, same⟩ := List.exists_cons_of_ne_nil sound.nonempty
  rw [same, Web.Path.join_cons, List.cons.injEq] at joined
  rw [← joined.2, Web.Path.cut_join_append rfl (same ▸ sound.slashless), ← same]

theorem pathPart_behind (kind : Kind) (object : List Char) :
    Url.pathPart (collectionPath kind ++ '/' :: '~' :: object) =
      collectionPath kind ++ '/' :: '~' :: Url.pathPart object := by
  rw [List.append_cons, Url.pathPart_append (by decide), ← List.append_cons]
  exact List.forall_mem_append.mpr
    ⟨collectionPath_clear kind, List.forall_mem_singleton.mpr (by decide)⟩

theorem clear_iff {character : Char} : character ∉ "/\\?#\t\n\r".toList ↔
    (Url.isUnbroken character ∧ character ≠ '#' ∧ character ≠ '?') ∧
      Web.Path.isSlash true character = false := by
  have marks : "/\\?#\t\n\r".toList = ['/', '\\', '?', '#', '\t', '\n', '\r'] := rfl
  simp only [marks, Url.isUnbroken, Web.Path.isSlash, List.mem_cons, List.not_mem_nil]
  grind

theorem isLiteral_iff : IsLiteral object ↔ Url.pathPart object.toList = object.toList ∧
    (∀ character ∈ object.toList, Web.Path.isSlash true character = false) ∧
      Text.Percent.isUnescaped object.toList := by
  rw [Url.pathPart_eq_self_iff]
  constructor
  · intro literal
    have clear (character) (member : character ∈ object.toList) :=
      clear_iff.mp (literal.clear character member)
    exact ⟨⟨literal.ends, fun character member => (clear character member).1⟩,
      fun character member => (clear character member).2, literal.unescaped⟩
  · rintro ⟨⟨ends, unbroken⟩, slashless, unescaped⟩
    exact ⟨fun character member =>
      clear_iff.mpr ⟨unbroken character member, slashless character member⟩, unescaped, ends⟩

theorem meaning_of_route (kind : Kind) :
    (route kind).map Text.Percent.meaning = (route kind).map String.ofList := by
  refine List.map_congr_left fun segment member => Text.Percent.meaning_of_isUnescaped ?_
  revert segment
  cases kind <;> decide

theorem isUnescaped_marked (text : List Char) :
    Text.Percent.isUnescaped ('~' :: text) = Text.Percent.isUnescaped text := by
  rw [Text.Percent.isUnescaped, Text.Percent.opensEscape_cons (by decide)]
  rfl

theorem means_of_isLiteral (literal : IsLiteral object) :
    Means (urlOf access authority kind object) kind object := by
  obtain ⟨plain, undivided, unescaped⟩ := isLiteral_iff.mp literal
  have whole := pathPart_behind kind object.toList
  rw [plain] at whole
  have sound := route_sound kind
  have slashless : ∀ own ∈ route kind ++ ['~' :: object.toList], ∀ character ∈ own,
      Web.Path.isSlash true character = false := by
    rw [List.forall_mem_append, List.forall_mem_singleton, List.forall_mem_cons]
    exact ⟨sound.slashless, rfl, undivided⟩
  have ordinary : ∀ own ∈ route kind ++ ['~' :: object.toList],
      Web.Path.isSingleDot own = false ∧ Web.Path.isDoubleDot own = false := by
    rw [List.forall_mem_append, List.forall_mem_singleton]
    exact ⟨sound.ordinary, marked_ordinary object.toList⟩
  have written := Web.Path.written_of_ordinary (by simp) slashless ordinary
  rw [← isUnescaped_marked] at unescaped
  rw [urlOf, Url.under_of_pathPart whole, ← route_append_join, written]
  refine ⟨rfl, ?_⟩
  rw [Web.Path.heard_join (by simp), List.map_map]
  · have same : Text.Percent.meaning ∘ Text.Percent.encode Web.Path.keepsInSegment =
        Text.Percent.meaning :=
      funext Web.Path.leaves_keepsInSegment.meaning_encode
    rw [same, List.map_append, meaning_of_route, List.map_singleton,
      Text.Percent.meaning_of_isUnescaped unescaped, segments]
    simp
  · rw [List.forall_mem_map]
    exact fun own member => Web.Path.slash_not_mem_encode (slashless own member)

theorem marked_not_mem_route (kind : Kind) (text : List Char) : '~' :: text ∉ route kind := by
  have heads : ∀ segment ∈ route kind, segment.head? ≠ some '~' := by
    cases kind <;> decide
  exact fun member => heads _ member rfl

theorem urlOf_path : (urlOf access authority kind object).path =
    Web.Path.join (Web.Path.resolve false []
      (route kind ++
        Text.cut (Web.Path.isSlash true) ('~' :: Url.pathPart object.toList))).reverse := by
  rw [urlOf, Url.under_path, pathPart_behind, Web.Path.written_slash, cut_collectionPath]

theorem exists_of_means (means : Means (urlOf access authority kind object) kind object) :
    ∃ segment ∈ Text.cut (Web.Path.isSlash true) ('~' :: Url.pathPart object.toList),
      Text.Percent.meaning segment = "~" ++ object := by
  have member : "~" ++ object ∈ Web.Path.heard (urlOf access authority kind object).path := by
    rw [means.path, segments]
    simp
  have whole : ∀ segment ∈ route kind ++
      Text.cut (Web.Path.isSlash true) ('~' :: Url.pathPart object.toList),
      ∀ character ∈ segment, Web.Path.isSlash true character = false :=
    List.forall_mem_append.mpr ⟨(route_sound kind).slashless,
      fun segment member => Text.not_isCut_of_mem_cut member⟩
  rw [urlOf_path] at member
  obtain empty | ⟨segment, inside, meant⟩ := Web.Path.mem_heard whole member
  · exact absurd empty (by simp)
  · obtain routed | inside := List.mem_append.mp inside
    · have plain := List.map_inj_left.mp (meaning_of_route kind) segment routed
      have head : segment = '~' :: object.toList := by
        simpa using congrArg String.toList (plain.symm.trans meant)
      exact absurd (head ▸ routed) (marked_not_mem_route kind object.toList)
    · exact ⟨segment, inside, meant⟩

theorem isLiteral_of_means (means : Means (urlOf access authority kind object) kind object) :
    IsLiteral object := by
  obtain ⟨segment, inside, meant⟩ := exists_of_means means
  -- Reading only ever takes characters away, so one that is as long as the object is all of it.
  have part := Url.pathPart_sublist object.toList
  have size := Text.length_of_mem_cut inside
  have length : (Text.Percent.meaning segment).length = object.toList.length + 1 := by
    rw [meant, String.length_append, String.length_toList, Nat.add_comm]
    rfl
  rw [List.length_cons] at size
  have shorter := part.length_le
  have unescaped : Text.Percent.isUnescaped segment := by
    refine Bool.of_not_eq_false fun escaped => ?_
    have less := Text.Percent.length_meaning_lt escaped
    omega
  have same : segment = '~' :: object.toList := by
    rw [Text.Percent.meaning_of_isUnescaped unescaped] at meant
    simpa using congrArg String.toList meant
  rw [same, List.length_cons] at size
  have whole : Url.pathPart object.toList = object.toList := part.eq_of_length_le (by omega)
  rw [whole] at size
  have slashless := List.countP_eq_zero.mp
    (show ('~' :: object.toList).countP (Web.Path.isSlash true) = 0 by omega)
  rw [same, isUnescaped_marked] at unescaped
  exact isLiteral_iff.mpr ⟨whole, fun character member =>
    Bool.eq_false_iff.mpr (slashless character (List.mem_cons_of_mem _ member)), unescaped⟩

theorem means_iff : Means (urlOf access authority kind object) kind object ↔ IsLiteral object :=
  ⟨isLiteral_of_means, means_of_isLiteral⟩

theorem route_injective {first second : Kind} (same : route first = route second) :
    first = second := by
  have placed := place?_collection first
  rw [same, place?_collection] at placed
  simpa using placed.symm

theorem segments_inj {first second : Kind} {one other : String} :
    segments first one = segments second other ↔ first = second ∧ one = other := by
  constructor
  · intro same
    obtain ⟨routes, objects⟩ := List.append_inj' same rfl
    refine ⟨route_injective ?_, ?_⟩
    · exact (List.map_inj_right fun _ _ => String.ofList_inj.mp).mp routes
    · simpa using objects
  · rintro ⟨rfl, rfl⟩
    rfl

theorem Means.unique {url another : Url} {first second : Kind} {one other : String}
    (means : Means url first one) (meansOther : Means another second other)
    (same : url.target = another.target) : first = second ∧ one = other := by
  have path : url.path = another.path := by
    simpa [Url.target, means.query, meansOther.query] using same
  have heard := means.path
  rw [path, meansOther.path, List.cons.injEq] at heard
  exact segments_inj.mp heard.2.symm

theorem requested_send {α : Type} (web : IsScheme access.scheme)
    (named : IsAuthority access.scheme host authority) (name : String) (method : Method)
    (body : Option Json) (finish : Except DeviceError Response → Program Web.Http α)
    (ends : ∀ response, ∃ result, finish response = .done result)
    (answer : HttpRequest → Option Response) :
    requested answer ((send access host kind name method
        (collectionUrl access host kind ++ "/~" ++ object) [] body).bind finish) =
      if (urlOf access authority kind object).write.utf8ByteSize ≤ Web.longest then
        [(method, urlOf access authority kind object)]
      else [] := by
  have prepared : Web.prepare (collectionUrl access host kind ++ "/~" ++ object) [] =
      if (urlOf access authority kind object).write.utf8ByteSize ≤ Web.longest then
        .ok (urlOf access authority kind object, authority.user)
      else .error (.unsupported (urlOf access authority kind object)) := by
    rw [collectionUrl_object, route_append_join, Web.prepare_under web named]
    rfl
  have silent (response : Except DeviceError Response) :
      requested answer (finish response) = [] := by
    obtain ⟨result, ends⟩ := ends response
    rw [ends]
    rfl
  by_cases short : (urlOf access authority kind object).write.utf8ByteSize ≤ Web.longest
  · rw [if_pos short] at prepared ⊢
    simp only [send, Web.send, prepared, Program.bind_eq, Program.bind, requested]
    cases answer _ with
    | none => exact congrArg (List.cons _) (silent _)
    | some response => exact congrArg (List.cons _) (silent _)
  · rw [if_neg short] at prepared ⊢
    simp only [send, Web.send, prepared, Program.bind_eq, Program.bind]
    exact silent _

end

theorem before_inj {mark : Char} {before other after rest : List Char} (absent : mark ∉ before)
    (absentToo : mark ∉ other) (same : before ++ mark :: after = other ++ mark :: rest) :
    before = other := by
  have whole {text : List Char} (absent : mark ∉ text) :
      ∀ character ∈ text, (character == mark) = false := fun character member =>
    beq_eq_false_iff_ne.mpr fun same => absent (same ▸ member)
  have cuts := congrArg (Text.cut (· == mark)) same
  rw [Text.cut_append _ (whole absent) (beq_self_eq_true mark),
    Text.cut_append _ (whole absentToo) (beq_self_eq_true mark), List.cons.injEq] at cuts
  exact cuts.1

theorem told_of_objectText {first second : Resource} (kinds : first.kind = second.kind)
    (texts : objectText first = objectText second)
    (apart : first.partition = second.partition ∨
      '~' ∉ first.partition.toList ∧ '~' ∉ second.partition.toList) :
    first.told = second.told := by
  unfold objectText at texts
  unfold Resource.told
  by_cases folder : first.kind = .folder
  · rw [if_pos folder, if_pos (kinds ▸ folder)] at texts
    rw [if_pos folder, if_pos (kinds ▸ folder), texts]
  · rw [if_neg folder, if_neg (kinds ▸ folder)] at texts
    rw [if_neg folder, if_neg (kinds ▸ folder)]
    have parts : first.partition.toList ++ '~' :: first.name.toList =
        second.partition.toList ++ '~' :: second.name.toList := by
      simpa using congrArg String.toList texts
    have partitions : first.partition = second.partition := by
      obtain same | ⟨unmarked, unmarkedToo⟩ := apart
      · exact same
      · exact String.toList_inj.mp (before_inj unmarked unmarkedToo parts)
    rw [partitions] at parts
    have names := (List.cons.inj (List.append_cancel_left parts)).2
    rw [kinds, partitions, String.toList_inj.mp names]

structure Addresses (access : Access) (host : String) (url : Resource → Url) : Prop where
  deletes : ∀ resource answer, requested answer (delete access host resource) =
    if (url resource).write.utf8ByteSize ≤ Web.longest then [(.delete, url resource)] else []
  probes : ∀ partition answer, requested answer (probe access host .folder partition) =
    if (url (.folder partition)).write.utf8ByteSize ≤ Web.longest then
      [(.get, url (.folder partition))]
    else []
  means : ∀ resource, Means (url resource) resource.kind (objectText resource) ↔
    IsLiteral (objectText resource)
  shared : ∀ first second, IsLiteral (objectText first) → IsLiteral (objectText second) →
    ((url first).target = (url second).target ↔
      first.kind = second.kind ∧ objectText first = objectText second)
  apart : ∀ first second, IsLiteral (objectText first) → IsLiteral (objectText second) →
    (first.partition = second.partition ∨
      '~' ∉ first.partition.toList ∧ '~' ∉ second.partition.toList) →
    (url first).target = (url second).target → first.told = second.told

theorem requested_delete {access : Access} {host : String} {authority : Url.Authority}
    (web : IsScheme access.scheme) (named : IsAuthority access.scheme host authority)
    (resource : Resource) (answer : HttpRequest → Option Response) :
    requested answer (delete access host resource) =
      if (urlOf access authority resource.kind (objectText resource)).write.utf8ByteSize ≤
        Web.longest then
        [(.delete, urlOf access authority resource.kind (objectText resource))]
      else [] := by
  have text : objectUrl access host resource =
      collectionUrl access host resource.kind ++ "/~" ++ objectText resource := rfl
  simp only [delete, text, Program.note, Program.bind_eq, Program.bind, requested]
  exact requested_send web named resource.name .delete none _ (fun _ => ⟨_, rfl⟩) answer

theorem requested_probe {access : Access} {host : String} {authority : Url.Authority}
    (web : IsScheme access.scheme) (named : IsAuthority access.scheme host authority)
    (kind : Kind) (name : String) (answer : HttpRequest → Option Response) :
    requested answer (probe access host kind name) =
      if (urlOf access authority kind name).write.utf8ByteSize ≤ Web.longest then
        [(.get, urlOf access authority kind name)]
      else [] := by
  simp only [probe, Program.note, Program.bind_eq, Program.bind, requested]
  exact requested_send web named name .get none _ (fun _ => ⟨_, rfl⟩) answer

/-- Every object is addressed as itself whose text is literal. -/
theorem objects_addressed {access : Access} {host : String} {authority : Url.Authority}
    (web : IsScheme access.scheme) (named : IsAuthority access.scheme host authority) :
    ∃ url, Addresses access host url := by
  have shared (first second : Resource) (literal : IsLiteral (objectText first))
      (literalToo : IsLiteral (objectText second)) :
      (urlOf access authority first.kind (objectText first)).target =
          (urlOf access authority second.kind (objectText second)).target ↔
        first.kind = second.kind ∧ objectText first = objectText second := by
    constructor
    · exact (means_of_isLiteral literal).unique (means_of_isLiteral literalToo)
    · rintro ⟨kinds, texts⟩
      rw [kinds, texts]
  refine ⟨fun resource => urlOf access authority resource.kind (objectText resource),
    requested_delete web named, requested_probe web named .folder, fun resource => means_iff,
    shared, fun first second literal literalToo apart same => ?_⟩
  obtain ⟨kinds, texts⟩ := (shared first second literal literalToo).mp same
  exact told_of_objectText kinds texts apart

theorem isAuthority_mixed : IsAuthority "https" "admin@BigIP-1:8443"
    ⟨some ("admin".toList, []), "bigip-1".toList, some 8443⟩ :=
  ⟨Text.forall_of_all (by decide), rfl, by decide, Text.forall_of_all (by decide)⟩

theorem objects_addressed_mixed :
    IsScheme "https" ∧
      IsAuthority "https" "admin@BigIP-1:8443"
        ⟨some ("admin".toList, []), "bigip-1".toList, some 8443⟩ ∧
      IsLiteral (objectText ⟨.snat, "50% für ~x", "Project_ü", none⟩) ∧
      ∃ url, Addresses ⟨"https", "admin", "secret"⟩ "admin@BigIP-1:8443" url :=
  ⟨.inr rfl, isAuthority_mixed, by decide, objects_addressed (.inr rfl) isAuthority_mixed⟩

theorem isAuthority_h : IsAuthority "http" "h" ⟨none, "h".toList, none⟩ :=
  ⟨Text.forall_of_all (by decide), rfl, by decide, Text.forall_of_all (by decide)⟩

/-- Without the conditions, a question mark makes the rest of a name a query, and where a partition
ends is not told if it holds the mark. -/
theorem objects_misaddressed :
    (∀ answer, requested answer
        (delete ⟨"http", "admin", "secret"⟩ "h" ⟨.snat, "a?b", "P", none⟩) =
      [(.delete, ⟨"http", none, some "h".toList, none, "/mgmt/tm/ltm/snat/~P~a".toList,
        some "b".toList, none⟩)]) ∧
    Web.Path.heard "/mgmt/tm/ltm/snat/~P~a".toList = ["", "mgmt", "tm", "ltm", "snat", "~P~a"] ∧
    ∀ resource ∈ [⟨.snat, "c", "a~b", none⟩, ⟨.snat, "b~c", "a", none⟩], ∀ answer,
      requested answer (delete ⟨"http", "admin", "secret"⟩ "h" resource) =
        [(.delete, ⟨"http", none, some "h".toList, none, "/mgmt/tm/ltm/snat/~a~b~c".toList,
          none, none⟩)] := by
  refine ⟨fun answer => ?_, by decide +kernel, ?_⟩
  · rw [requested_delete (.inl rfl) isAuthority_h]
    decide +kernel
  · simp only [List.forall_mem_cons, List.not_mem_nil, false_imp_iff, implies_true, and_true]
    refine ⟨fun answer => ?_, fun answer => ?_⟩
    · rw [requested_delete (.inl rfl) isAuthority_h]
      decide +kernel
    · rw [requested_delete (.inl rfl) isAuthority_h]
      decide +kernel

end DeviceApi

end Tenancy
