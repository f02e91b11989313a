import HostRegistry.Client.Command
import HostRegistry.Proofs.Client.Url

/-!
# Asking by id

A query by id asks about exactly the id that it was given if no character of the id has a meaning in
a URL, the id is no dot segment, and nothing in it can be read as an escape. Any other id is cut,
cleaned or decoded on its way: what the interface then takes for the id is shorter.
-/

namespace HostRegistry.Client

open Management Text

/-! ## Queries -/

/-- The queries about one id. -/
inductive IdQuery
  | containerHosts
  | serverHosts
  | aliasContainers

namespace IdQuery

/-- The command line's name of the query. -/
def command : IdQuery → String
  | containerHosts => "container-hosts"
  | serverHosts => "server-hosts"
  | aliasContainers => "aliases"

def call (q : IdQuery) (id : String) : Call :=
  match q with
  | containerHosts => .containerHosts id
  | serverHosts => .serverHosts id
  | aliasContainers => .aliasContainers id

def resource (q : IdQuery) (part : String) : Resource :=
  match q with
  | containerHosts => .containerHosts part
  | serverHosts => .serverHosts part
  | aliasContainers => .aliasContainers part

/-- What the registry lists for an id. -/
def listing (q : IdQuery) (contents : Snapshot) (id : String) : Json.Value :=
  match q with
  | containerHosts => Json.texts (contents.hostsOfContainer id)
  | serverHosts => Json.texts (contents.hostsOfServer id)
  | aliasContainers => Snapshot.infosToJson (contents.infos id)

def collection : IdQuery → String
  | containerHosts => "containers"
  | serverHosts => "servers"
  | aliasContainers => "aliases"

def leaf : IdQuery → String
  | containerHosts | serverHosts => "hosts"
  | aliasContainers => "containers"

/-- A path that goes on behind the query's collection. -/
def pathTo (q : IdQuery) (more : List Char) : List Char :=
  '/' :: ("mgmt".toList ++ '/' :: (q.collection.toList ++ '/' :: more))

theorem path_call (q : IdQuery) (id : String) :
    (q.call id).path.toList = q.pathTo (id.toList ++ '/' :: q.leaf.toList) := by
  have hform : ∃ before behind, (q.call id).path = before ++ id ++ behind ∧
      before.toList = '/' :: ("mgmt".toList ++ '/' :: (q.collection.toList ++ ['/'])) ∧
      behind.toList = '/' :: q.leaf.toList := by
    cases q with
    | containerHosts => exact ⟨"/mgmt/containers/", "/hosts", rfl, by decide, by decide⟩
    | serverHosts => exact ⟨"/mgmt/servers/", "/hosts", rfl, by decide, by decide⟩
    | aliasContainers => exact ⟨"/mgmt/aliases/", "/containers", rfl, by decide, by decide⟩
  obtain ⟨before, behind, hpath, hbefore, hbehind⟩ := hform
  rw [hpath, String.toList_append, String.toList_append, hbefore, hbehind]
  simp only [pathTo, List.cons_append, List.append_assoc, List.nil_append]

theorem ofPath?_eq_resource_iff {q : IdQuery} {path part : String} :
    Resource.ofPath? path = some (q.resource part) ↔
      cut '/' path = ["", "mgmt", q.collection, part, q.leaf] := by
  constructor
  · intro h
    unfold Resource.ofPath? at h
    split at h <;> cases q <;> cases h <;> assumption
  · intro h
    unfold Resource.ofPath?
    rw [h]
    cases q <;> rfl

/-- Between two slashes stands the empty id. -/
example : Resource.ofPath? "/mgmt/containers//hosts" = some (containerHosts.resource "") := by
  decide +kernel

theorem visible_pathTo (q : IdQuery) (more : List Char) :
    Url.visible (q.pathTo more) = q.pathTo (Url.visible more) := by
  have hstands : (q.pathTo []).all Url.standsInPath = true := by cases q <;> decide
  have happend := Url.visible_append_of_stands (List.all_eq_true.1 hstands) more
  simpa only [pathTo, List.cons_append, List.append_assoc, List.nil_append] using happend

/-- The parts of a query's path are its own and those of the id. -/
theorem partsOf_pathTo (q : IdQuery) (more : List Char) :
    Url.partsOf (q.pathTo more) =
      Url.cleanParts [] ("mgmt".toList :: q.collection.toList ::
        cutList '/' ((Url.visible more).map Url.toSlash)) := by
  have hslash : Url.toSlash '/' = '/' := rfl
  have hroot : "mgmt".toList.map Url.toSlash = "mgmt".toList := by decide
  have hcollection : q.collection.toList.map Url.toSlash = q.collection.toList := by
    cases q <;> decide
  have hplain : '/' ∉ q.collection.toList := by cases q <;> decide
  rw [Url.partsOf, visible_pathTo, pathTo, List.drop_one, List.tail_cons, List.map_append,
    List.map_cons, List.map_append, List.map_cons, hslash, hroot, hcollection, cutList_append,
    cutList_append, cutList_of_not_mem hplain, cutList_of_not_mem (by decide)]
  rfl

end IdQuery

/-! ## Ids that can be asked about -/

/-- Characters that have a meaning in a URL. -/
def marks : List Char := ['\t', '\n', '\r', '/', '\\', '?', '#']

/-- An id that is its own part of a path. -/
structure Addressable (id : String) : Prop where
  unmarked : ∀ c ∈ id.toList, c ∉ marks
  not_dots : id ≠ "." ∧ id ≠ ".."
  /-- No percent sign has two hexadecimal digits behind it. -/
  unescaped : Percent.decode (Bytes.ofText id) = Bytes.ofText id

instance (id : String) : Decidable (Addressable id) :=
  decidable_of_iff ((id.toList.all fun c => decide (c ∉ marks)) = true ∧ (id ≠ "." ∧ id ≠ "..") ∧
      Percent.decode (Bytes.ofText id) = Bytes.ofText id)
    ⟨fun ⟨hunmarked, hdots, hunescaped⟩ =>
        ⟨fun c hc => of_decide_eq_true (List.all_eq_true.1 hunmarked c hc), hdots, hunescaped⟩,
      fun h => ⟨List.all_eq_true.2 fun c hc => decide_eq_true (h.unmarked c hc), h.not_dots,
        h.unescaped⟩⟩

theorem not_mem_marks_iff {c : Char} :
    c ∉ marks ↔ Url.standsInPath c = true ∧ Url.isSlash c = false := by
  simp [marks, Url.standsInPath, Url.isTabOrLineEnd, Url.isSlash]
  tauto

/-! ## Answers to queries -/

theorem decodePart?_partText_iff {part : List Char} {id : String} :
    decodePart? (Url.partText part) = some id ↔
      Percent.decode (Bytes.ofText (String.ofList part)) = Bytes.ofText id := by
  have hascii : ∀ b ∈ Url.encodeText Url.escapedInPath part, b < 0x80 :=
    fun b hb => (Url.of_mem_encodeText hb).1
  rw [decodePart?, Url.partText, Bytes.ofText_asciiText hascii, Url.decode_encodeText]
  constructor
  · exact fun h => (Bytes.ofText_eq_of_toText? h).symm
  · intro h
    rw [h, Bytes.toText?_ofText]

/-- The request asks about the id: it gets to the query's resource, with the id as its part. -/
def IdQuery.Asks (q : IdQuery) (base id : String) : Prop :=
  ∃ request part, request? base (q.call id) = some request ∧ request.method = "GET" ∧
    Resource.ofPath? (pathOf request.target) = some (q.resource part) ∧
    decodePart? part = some id

/-- The request of a query asks for the parts of its path. -/
theorem request?_call (q : IdQuery) {base : String} (hbase : IsAddress base) (id : String) :
    ∃ target, request? base (q.call id) = some ⟨"GET", target, none, []⟩ ∧
      cut '/' (pathOf target) =
        "" :: (Url.partsOf (q.call id).path.toList).map Url.partText := by
  have hpath := q.path_call id
  have hslash : (q.call id).path.toList.head? = some '/' := by
    rw [hpath]
    rfl
  have hend : (q.call id).path.toList.getLast? = some 's' := by
    have hleaf : q.leaf.toList.getLast? = some 's' := by cases q <;> decide
    simp [hpath, IdQuery.pathTo, List.getLast?_cons, List.getLast?_append, hleaf]
  obtain ⟨target, htarget, hcut⟩ := Url.cut_pathOf_target hbase hslash hend rfl
  have hbody : (q.call id).body? = none := by cases q <;> rfl
  refine ⟨target, ?_, hcut⟩
  rw [request?, htarget, Option.map_some, hbody]

/-- A part that was cut out of an id and is decoded to the id again is all of the id. -/
theorem addressable_of_decode {id : String} {part : List Char}
    (h : part ∈ cutList '/' ((Url.visible id.toList).map Url.toSlash))
    (hdots : Url.isSingleDot part = false ∧ Url.isDoubleDot part = false)
    (hdecode : Percent.decode (Bytes.ofText (String.ofList part)) = Bytes.ofText id) :
    Addressable id := by
  obtain ⟨hsublist, hslash⟩ := Url.of_mem_cutList_map h
  have hvisible := Url.visible_sublist id.toList
  -- Decoding only shortens, so nothing of the id was lost before.
  have hwhole : part = id.toList := by
    have hlength := Percent.length_decode_le (Bytes.ofText (String.ofList part))
    refine Bytes.eq_of_sublist (hsublist.trans hvisible) ?_
    rw [String.ofList_toList, ← hdecode]
    exact hlength
  subst hwhole
  rw [String.ofList_toList] at hdecode
  have hall : Url.visible id.toList = id.toList := hvisible.antisymm hsublist
  refine ⟨fun c hc => not_mem_marks_iff.2 ⟨?_, hslash c hc⟩, ⟨?_, ?_⟩, hdecode⟩
  · exact Url.stands_of_mem_visible (hall.symm ▸ hc)
  · rintro rfl
    cases hdots.1
  · rintro rfl
    cases hdots.2

/-- The parts of a query's path that are not the id's, and the empty one. -/
def IdQuery.words (q : IdQuery) : List (List Char) :=
  [[], "mgmt".toList, q.collection.toList, q.leaf.toList]

theorem IdQuery.addressable_of_word (q : IdQuery) {id : String} {word : List Char}
    (h : word ∈ q.words)
    (hdecode : Percent.decode (Bytes.ofText (String.ofList word)) = Bytes.ofText id) :
    Addressable id := by
  have hwords : ∀ word ∈ q.words, Addressable (String.ofList word) := by
    cases q <;> decide +kernel
  have hword := hwords word h
  have hsame := congrArg Bytes.toText? (hword.unescaped.symm.trans hdecode)
  rw [Bytes.toText?_ofText, Bytes.toText?_ofText] at hsame
  exact Option.some.inj hsame ▸ hword

theorem IdQuery.visible_leaf (q : IdQuery) :
    Url.visible ('/' :: q.leaf.toList) = '/' :: q.leaf.toList ∧
      ('/' :: q.leaf.toList).map Url.toSlash = '/' :: q.leaf.toList ∧
      cutList '/' q.leaf.toList = [q.leaf.toList] := by
  cases q <;> decide

/-- Each part of a query's path is a word of its own or a piece of the id. -/
theorem IdQuery.mem_partsOf_call (q : IdQuery) {id : String} {part : List Char}
    (h : part ∈ Url.partsOf (q.call id).path.toList) :
    part ∈ q.words ∨ part ∈ cutList '/' ((Url.visible id.toList).map Url.toSlash) ∧
      Url.isSingleDot part = false ∧ Url.isDoubleDot part = false := by
  obtain ⟨hvisible, hslash, hleaf⟩ := q.visible_leaf
  rw [q.path_call, partsOf_pathTo] at h
  rcases Url.mem_of_mem_cleanParts h with hpart | rfl | ⟨hpart, hdots⟩
  · exact (List.not_mem_nil hpart).elim
  · exact .inl (.head _)
  rcases List.mem_cons.1 hpart with rfl | hpart
  · exact .inl (.tail _ (.head _))
  rcases List.mem_cons.1 hpart with rfl | hpart
  · exact .inl (.tail _ (.tail _ (.head _)))
  rcases Url.visible_append_or id.toList ('/' :: q.leaf.toList) with hwhole | hended
  · rw [hwhole, hvisible, List.map_append, hslash, cutList_append, hleaf, List.mem_append,
      List.mem_singleton] at hpart
    rcases hpart with hpart | rfl
    · exact .inr ⟨hpart, hdots⟩
    · exact .inl (.tail _ (.tail _ (.tail _ (.head _))))
  · rw [hended] at hpart
    exact .inr ⟨hpart, hdots⟩

theorem addressable_of_asks {q : IdQuery} {base id : String} (hbase : IsAddress base)
    (h : q.Asks base id) : Addressable id := by
  obtain ⟨request, written, hrequest, -, hresource, hdecode⟩ := h
  obtain ⟨target, hrequest', hcut⟩ := request?_call q hbase id
  cases hrequest'.symm.trans hrequest
  -- What is taken for the id is a part of the path as the URL asks for it.
  obtain ⟨part, hpart, rfl⟩ : ∃ part ∈ Url.partsOf (q.call id).path.toList,
      Url.partText part = written := by
    rw [IdQuery.ofPath?_eq_resource_iff, hcut] at hresource
    have hwritten : written ∈ (Url.partsOf (q.call id).path.toList).map Url.partText := by
      rw [(List.cons.inj hresource).2]
      exact .tail _ (.tail _ (.head _))
    exact List.mem_map.1 hwritten
  rw [decodePart?_partText_iff] at hdecode
  rcases q.mem_partsOf_call hpart with hword | ⟨hpiece, hdots⟩
  · exact q.addressable_of_word hword hdecode
  · exact addressable_of_decode hpiece hdots hdecode

/-- Not even an id that is written with escapes is a dot segment. -/
theorem Addressable.not_isDot {id : String} (h : Addressable id) :
    Url.isSingleDot id.toList = false ∧ Url.isDoubleDot id.toList = false := by
  rw [← Bool.or_eq_false_iff]
  by_contra hdot
  have hdecode : Percent.decode (Bytes.ofText (String.ofList id.toList)) =
      Bytes.ofText (String.ofList id.toList) := by
    rw [String.ofList_toList, h.unescaped]
  rcases Url.eq_of_isDot (eq_true_of_ne_false hdot) hdecode with hid | hid
  · exact h.not_dots.1 (String.toList_inj.1 hid)
  · exact h.not_dots.2 (String.toList_inj.1 hid)

theorem Addressable.partsOf_call {id : String} (h : Addressable id) (q : IdQuery) :
    Url.partsOf (q.call id).path.toList =
      ["mgmt".toList, q.collection.toList, id.toList, q.leaf.toList] := by
  have hstands : ∀ c ∈ id.toList, Url.standsInPath c = true :=
    fun c hc => (not_mem_marks_iff.1 (h.unmarked c hc)).1
  have hslash : ∀ c ∈ id.toList, Url.isSlash c = false :=
    fun c hc => (not_mem_marks_iff.1 (h.unmarked c hc)).2
  have hplain : '/' ∉ id.toList := fun hmem => by cases hslash '/' hmem
  obtain ⟨hvisible, hleafSlash, hleaf⟩ := q.visible_leaf
  rw [q.path_call, IdQuery.partsOf_pathTo, Url.visible_append_of_stands hstands, hvisible,
    List.map_append, Url.map_toSlash hslash, hleafSlash, cutList_append,
    cutList_of_not_mem hplain, hleaf, Url.cleanParts_of_plain]
  · rfl
  have hwords : ∀ word ∈ q.words, Url.isSingleDot word = false ∧ Url.isDoubleDot word = false := by
    cases q <;> decide
  intro part hpart
  simp only [List.mem_cons, List.mem_append, List.not_mem_nil, or_false] at hpart
  rcases hpart with rfl | rfl | rfl | rfl
  · exact hwords _ (.tail _ (.head _))
  · exact hwords _ (.tail _ (.tail _ (.head _)))
  · exact h.not_isDot
  · exact hwords _ (.tail _ (.tail _ (.tail _ (.head _))))

theorem asks_of_addressable (q : IdQuery) {base id : String} (hbase : IsAddress base)
    (h : Addressable id) : q.Asks base id := by
  obtain ⟨target, hrequest, hcut⟩ := request?_call q hbase id
  refine ⟨_, Url.partText id.toList, hrequest, rfl, ?_, ?_⟩
  · have hroot : Url.partText "mgmt".toList = "mgmt" := by decide
    have hcollection : Url.partText q.collection.toList = q.collection := by cases q <;> decide
    have hleaf : Url.partText q.leaf.toList = q.leaf := by cases q <;> decide
    rw [IdQuery.ofPath?_eq_resource_iff, hcut, h.partsOf_call, List.map_cons,
      List.map_cons, List.map_cons, List.map_cons, List.map_nil, hroot, hcollection, hleaf]
  · rw [decodePart?_partText_iff, String.ofList_toList, h.unescaped]

theorem IdQuery.respond (q : IdQuery) {request : Request} {part id : String}
    (hmethod : request.method = "GET")
    (hresource : Resource.ofPath? (pathOf request.target) = some (q.resource part))
    (hdecode : decodePart? part = some id) {σ ι : Type} (s : Service σ ι) :
    s.respond request = (.json 200 (q.listing s.session.contents id), s) := by
  have haccepts : (q.resource part).accepts "GET" = true := by cases q <;> rfl
  have hanswer : Service.answerQuery s.session.contents (q.resource part) =
      .json 200 (q.listing s.session.contents id) := by
    cases q <;> simp only [resource, Service.answerQuery, Service.answerId, hdecode, listing]
  rw [Service.respond, hresource]
  simp only [hmethod, haccepts, if_true]
  rw [← hanswer]
  cases q <;> simp [resource, Service.answer, hmethod]

/-! ## The command line -/

theorem looksLikeOption_of_isAddress {base : String} (h : IsAddress base) :
    CommandLine.looksLikeOption base = false := by
  obtain ⟨scheme, hscheme, host, -, -, htrim⟩ := h
  have hfirst : (trimBase base).toList.head? = some 'h' := by
    rw [htrim, String.toList_append]
    rcases eq_of_mem_schemes hscheme with rfl | rfl <;> rfl
  have hprefix : (trimBase base).toList <+: base.toList := by
    rw [trimBase, String.toList_ofList, ← List.reverse_suffix, List.reverse_reverse]
    exact List.dropWhile_suffix _
  obtain ⟨rest, hrest⟩ := hprefix
  rw [CommandLine.looksLikeOption, ← hrest, List.head?_append, hfirst]
  rfl

theorem ofArguments_query (q : IdQuery) {base : String} (hbase : IsAddress base) (id : String) :
    Command.ofArguments ["--url", base, q.command, "--", id] = .ok (base, q.call id) := by
  have hvalue := looksLikeOption_of_isAddress hbase
  have hoption : CommandLine.readOption Command.mainGrammar "--url".toList =
      .ok (⟨"url", some 'u', true⟩, none) := by
    rfl
  have hcommand : Command.mainGrammar.commands.contains q.command = true ∧
      CommandLine.looksLikeOption q.command = false ∧ q.command ≠ "--" := by
    cases q <;> decide
  have hparse : CommandLine.parseToCommand Command.mainGrammar
      ["--url", base, q.command, "--", id] =
        .ok ⟨[], [], some (⟨"url", some 'u', true⟩, base), some (q.command, ["--", id])⟩ := by
    obtain ⟨hmember, hword, hdashes⟩ := hcommand
    have hlong : CommandLine.looksLikeOption "--url" = true := rfl
    simp only [CommandLine.parseToCommand, CommandLine.parseFrom, hoption, hvalue, hmember, hword,
      hdashes, hlong, bind, Except.bind]
    rfl
  have hcall : Command.call q.command ["--", id] = .ok (q.call id) := by
    cases q <;> rfl
  rw [Command.ofArguments, hparse]
  simp [bind, Except.bind, hcall, CommandLine.Parsed.settle, CommandLine.Parsed.give,
    CommandLine.Parsed.get?, pure, Except.pure]

/-! ## Which ids can be asked about -/

/-- A query, sent by the client or the command line, asks about exactly the id it was given just if
the id is addressable; it is then answered with what the registry lists for that id. -/
theorem IdQuery.asks_iff_addressable (q : IdQuery) {base : String} (hbase : IsAddress base)
    (id : String) :
    (q.Asks base id ↔ Addressable id) ∧
    Command.ofArguments ["--url", base, q.command, "--", id] = .ok (base, q.call id) ∧
    (Addressable id → ∀ {σ ι : Type} (s : Service σ ι) (request : Request),
      request? base (q.call id) = some request →
        s.respond request = (.json 200 (q.listing s.session.contents id), s)) := by
  refine ⟨⟨addressable_of_asks hbase, asks_of_addressable q hbase⟩,
    ofArguments_query q hbase id, ?_⟩
  intro haddressable σ ι s request hrequest
  obtain ⟨request', part, hrequest', hmethod, hresource, hdecode⟩ :=
    asks_of_addressable q hbase haddressable
  cases hrequest'.symm.trans hrequest
  exact q.respond hmethod hresource hdecode s

theorem isAddress_defaultBase : IsAddress Command.defaultBase := by
  have hhost : ("localhost:9000".toList.all isHostChar) = true := by decide
  exact ⟨"http://", .head _, "localhost:9000".toList, nofun, List.all_eq_true.1 hhost, rfl⟩

theorem asks_percent :
    IsAddress Command.defaultBase ∧ Addressable "50% {ä}" ∧
      IdQuery.aliasContainers.Asks Command.defaultBase "50% {ä}" := by
  have haddressable : Addressable "50% {ä}" := by decide +kernel
  exact ⟨isAddress_defaultBase, haddressable,
    (IdQuery.aliasContainers.asks_iff_addressable isAddress_defaultBase _).1.2 haddressable⟩

/-- A service without any hosts. -/
def unusedService : Service Unit Unit :=
  ⟨⟨.empty, (), []⟩, ⟨.new { fileName := "f" }, .empty, FileTree.soundDevice, []⟩⟩

/-- What the service says to calls that come one after the other. -/
def statuses (base : String) (s : Service Unit Unit) (calls : List Call) : List (Option Nat) :=
  match calls with
  | [] => []
  | call :: rest =>
    match request? base call with
    | none => none :: statuses base s rest
    | some request =>
      let (response, s) := s.respond request
      some response.status :: statuses base s rest

/-- A container with a slash in its id is registered, but asking for its hosts finds no resource. -/
theorem not_asks_slashed :
    IsAddress Command.defaultBase ∧
      ¬IdQuery.containerHosts.Asks Command.defaultBase "a/b" ∧
      statuses Command.defaultBase unusedService
        [.add ⟨"a/b", "", "g:a:v", "s", "http://h"⟩, .containerHosts "a/b"] =
          [some 200, some 404] := by
  refine ⟨isAddress_defaultBase, fun hasks => ?_, by decide +kernel⟩
  exact absurd (addressable_of_asks isAddress_defaultBase hasks) (by decide +kernel)

end HostRegistry.Client
