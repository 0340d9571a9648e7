import TenantGateway.App
import TenantGateway.Proofs.Percent
import TenantGateway.Proofs.Requests
import TenantGateway.Proofs.Serving
import TenantGateway.Proofs.Template

/-! # Reaching streams

A stream is called by a name in a body when it is created, and by a segment of a path afterwards.
Every name without a slash can be written as a segment that leads to it; one with a slash leads
nowhere.
-/
namespace TenantGateway.Http

open Text

theorem destination_of_only {table : List Route} {route : Route} {path name : String}
    (hm : route ∈ table) (hname : route.name? path = some name)
    (honly : ∀ other ∈ table, other.method = route.method → other ≠ route →
      other.name? path = none) :
    destination table route.method path = .operation route.operation name := by
  have hfitting : (route, name) ∈ fitting table path :=
    List.mem_filterMap.mpr ⟨route, hm, by rw [hname]; rfl⟩
  unfold destination
  dsimp only
  split
  · next other n hfound =>
    have hmethod : other.method = route.method := by simpa using List.find?_some hfound
    obtain ⟨_, ho, hn⟩ := List.mem_filterMap.mp (List.mem_of_find?_eq_some hfound)
    obtain ⟨_, hn, he⟩ := Option.map_eq_some_iff.mp hn
    cases he
    have hsame : other = route := by
      by_contra hne
      rw [honly other ho hmethod hne] at hn
      cases hn
    subst hsame
    rw [Option.some.inj (hn.symm.trans hname)]
  · next hnone => exact absurd (beq_self_eq_true _) (List.find?_eq_none.mp hnone _ hfitting)

def streamTail : String := "/streams/\x7bname\x7d"

theorem ofPath_streamTail : Template.ofPath streamTail =
    Template.plain "/streams/".toList ++ [.parameter "name" .segment] := by
  decide

section Fit

variable {root path name : String} {route : Route}

theorem exists_fits_of_stream (hpath : route.path = root ++ streamTail)
    (hroot : (Template.ofPath (root ++ streamTail)).Sound) (h : route.name? path = some name) :
    ∃ front found, Template.Fits (.ofPath root) front found ∧
      path.toList = front ++ "/streams/".toList ++ name.toList ∧ name ≠ "" ∧
        '/' ∉ name.toList := by
  have htemplate : Template.ofPath (root ++ streamTail) = _ := Template.ofPath_append rfl
  rw [htemplate, ofPath_streamTail] at hroot
  obtain ⟨found, hmatch, rfl⟩ := Option.map_eq_some_iff.mp h
  rw [Route.template, hpath, htemplate, ofPath_streamTail, Template.match?] at hmatch
  obtain ⟨front, rest, before, after, hcs, hfits, hrest, rfl⟩ :=
    Template.exists_fits_of_matchFrom?_append hmatch
  obtain ⟨segment, rfl, hsegment⟩ := Template.matchFrom?_plain_append_iff.mp hrest
  obtain ⟨hne, hslash, rfl⟩ := Template.matchFrom?_segment_iff.mp hsegment
  -- No parameter of the root is called as the last one is.
  have hbefore : before.lookup "name" = none := by
    have hnodup := hroot.nodup
    rw [Template.names, List.filterMap_append, List.nodup_append] at hnodup
    rw [List.lookup_eq_none_iff]
    intro entry hentry
    have hmem : entry.1 ∈ (Template.ofPath root).names :=
      hfits.names ▸ List.mem_map_of_mem hentry
    exact bne_iff_ne.mpr (hnodup.2.2 _ hmem _ (by decide)).symm
  refine ⟨front, before, hfits, ?_⟩
  rw [List.lookup_append, hbefore]
  simp [hcs, hne, hslash]

theorem fits_of_word {tail above : String} {word : List Char} (hpath : route.path = root ++ tail)
    (htail : tail.toList = '/' :: word)
    (hplain : Template.ofPath tail = Template.plain tail.toList)
    (hword : '/' ∉ word) (hslash : '/' ∉ name.toList) {other : String}
    (h : route.name? (above ++ "/" ++ name) = some other) :
    (∃ found, Template.Fits (.ofPath root) above.toList found) ∧
      (name.toList = word ∨ name.toList = word ++ ['\n']) := by
  obtain ⟨found, hmatch, -⟩ := Option.map_eq_some_iff.mp h
  have hhead : tail.toList.head? = some '/' := by
    rw [htail]
    rfl
  rw [Route.template, hpath, Template.ofPath_append hhead, hplain, Template.match?,
    ← List.append_nil (Template.plain _)] at hmatch
  obtain ⟨front, rest, before, after, hcs, hfits, hrest, -⟩ :=
    Template.exists_fits_of_matchFrom?_append hmatch
  obtain ⟨last, rfl, hlast⟩ := Template.matchFrom?_plain_append_iff.mp hrest
  obtain ⟨hend, -⟩ := Template.matchFrom?_nil_iff.mp hlast
  have hlast : '/' ∉ last := by
    rcases hend with rfl | rfl <;> decide
  have hcut : above.toList ++ '/' :: name.toList = front ++ '/' :: (word ++ last) := by
    simpa [htail] using hcs
  obtain ⟨rfl, hname⟩ := (append_cons_inj_of_last hslash
    (fun hm => (List.mem_append.mp hm).elim hword hlast)).mp hcut
  refine ⟨⟨before, hfits⟩, ?_⟩
  rw [hname]
  rcases hend with rfl | rfl
  · exact .inl (List.append_nil word)
  · exact .inr rfl

end Fit

def rootSample (root : String) : String := String.ofList (Template.sample (.ofPath root))

theorem rootSample_of_plain {root : String} (h : '\x7b' ∉ root.toList) :
    rootSample root = root := by
  rw [rootSample, Template.ofPath_of_plain h, Template.sample_plain, String.ofList_toList]

def pathUnder (root name : String) : String := rootSample root ++ "/streams" ++ "/" ++ name

/-- The last segments of the other paths under a root by which something is asked for. -/
def reservedWords : List String := ["openapi.json", "docs", "redoc", "info", "streams"]

def Reserved (name : String) : Prop := ∃ word ∈ reservedWords, name = word ∨ name = word ++ "\n"

/-- The root leaves a name to the route of streams. A parameter that takes slashes might take the
path up to the name, which must then be the word of no other route. -/
def Leaves (root name : String) : Prop :=
  (∀ parameter, .parameter parameter .path ∉ Template.ofPath root) ∨ ¬ Reserved name

theorem known_of_sound {root : String} (hroot : (Template.ofPath (root ++ streamTail)).Sound)
    (parameter kind : String) : .parameter parameter (.unknown kind) ∉ Template.ofPath root := by
  intro hm
  refine hroot.known parameter kind ?_
  rw [show Template.ofPath (root ++ streamTail) = _ from Template.ofPath_append rfl]
  exact List.mem_append_left _ hm

theorem leaves_of_plain {root : String} (h : '\x7b' ∉ root.toList) (name : String) :
    Leaves root name := by
  refine .inl fun parameter hm => ?_
  rw [Template.ofPath_of_plain h, Template.plain] at hm
  obtain ⟨c, -, hc⟩ := List.mem_map.mp hm
  cases hc

section Stream

variable {root name : String} (hroot : (Template.ofPath (root ++ streamTail)).Sound)
  (hne : name ≠ "") (hslash : '/' ∉ name.toList)
include hroot hne hslash

theorem name?_stream {route : Route} (hpath : route.path = root ++ streamTail) :
    route.name? (pathUnder root name) = some name := by
  have htemplate : Template.ofPath (root ++ streamTail) = _ := Template.ofPath_append rfl
  have hrest : ∃ found, Template.matchFrom? (.ofPath streamTail)
      ("/streams/".toList ++ name.toList) = some found := by
    have hsegment : Template.matchFrom? [.parameter "name" .segment] name.toList = some _ :=
      Template.matchFrom?_segment_iff.mpr ⟨by simpa using hne, hslash, rfl⟩
    rw [ofPath_streamTail]
    exact ⟨_, Template.matchFrom?_plain_append_iff.mpr ⟨_, rfl, hsegment⟩⟩
  obtain ⟨found, hfound⟩ := Template.exists_matchFrom?_sample (known_of_sound hroot) hrest
  have hsome : ∃ other, route.name? (pathUnder root name) = some other := by
    refine ⟨_, Option.map_eq_some_iff.mpr ⟨found, ?_, rfl⟩⟩
    rw [Route.template, hpath, htemplate, Template.match?, ← hfound]
    simp [pathUnder, rootSample]
  obtain ⟨other, hother⟩ := hsome
  obtain ⟨front, -, -, hlast, -, ho⟩ := exists_fits_of_stream hpath hroot hother
  -- The name that was found stands after the last slash, and so does the one that is meant.
  have hsame : (rootSample root ++ "/streams").toList ++ '/' :: name.toList =
      (front ++ "/streams".toList) ++ '/' :: other.toList := by
    simpa [pathUnder] using hlast
  rw [hother, String.toList_inj.mp ((append_cons_inj_of_last hslash ho).mp hsame).2]

end Stream

section Other

variable {root name : String} {route : Route} (hslash : '/' ∉ name.toList)
include hslash

/-- The routes that end with words do not have the path of a stream. -/
theorem name?_of_word (hroot : (Template.ofPath (root ++ streamTail)).Sound)
    (hleaves : Leaves root name) {word : String} (hword : word ∈ reservedWords)
    (hpath : route.path = root ++ ("/" ++ word)) :
    route.name? (pathUnder root name) = none := by
  have hwords : ∀ word ∈ reservedWords, '/' ∉ word.toList ∧
      Template.ofPath ("/" ++ word) = Template.plain ("/" ++ word).toList := by decide
  obtain ⟨hbare, hplain⟩ := hwords word hword
  rw [Option.eq_none_iff_forall_not_mem]
  intro other hother
  obtain ⟨⟨found, hfits⟩, hname⟩ :=
    fits_of_word hpath String.toList_append hplain hbare hslash hother
  rcases hleaves with hpaths | hfree
  · -- The root would take one path with `/streams` and without it, whose slashes differ in number.
    obtain ⟨_, hbase⟩ := Template.exists_fits_sample (known_of_sound hroot)
    have hmore := hfits.count_slash hpaths
    have hless := hbase.count_slash hpaths
    have hone : "/streams".toList.count '/' = 1 := by decide
    rw [← hless, rootSample, String.toList_append, String.toList_ofList, List.count_append] at hmore
    omega
  · refine hfree ⟨word, hword, ?_⟩
    rcases hname with hname | hname
    · exact .inl (String.toList_inj.mp hname)
    · exact .inr (String.toList_inj.mp (by rw [hname, String.toList_append]; rfl))

theorem name?_of_short {short tail above : String} {word : List Char}
    (hpath : route.path = short ++ tail) (htail : tail.toList = '/' :: word)
    (hplain : Template.ofPath tail = Template.plain tail.toList) (hbare : '/' ∉ word)
    (hshort : Template.ofPath short = Template.plain short.toList)
    (hlength : short.length < "/streams".length) :
    route.name? (above ++ "/streams" ++ "/" ++ name) = none := by
  rw [Option.eq_none_iff_forall_not_mem]
  intro other hother
  obtain ⟨⟨found, hfits⟩, -⟩ := fits_of_word hpath htail hplain hbare hslash hother
  rw [hshort] at hfits
  have hsame := congrArg List.length hfits.eq_of_plain
  rw [String.length_toList, String.length_toList, String.length_append] at hsame
  omega

end Other

def streamOperations : List Operation := [.updateStream, .viewStream, .deleteStream]

def streamRoute (root : String) (op : Operation) : Route := ⟨op.method, root ++ streamTail, op⟩

theorem streamRoute_mem {root : String} {op : Operation} (hop : op ∈ streamOperations) :
    streamRoute root op ∈ routes root := by
  simp only [streamOperations, List.mem_cons, List.not_mem_nil, or_false] at hop
  rcases hop with rfl | rfl | rfl <;>
    simp [streamRoute, routes, operations, Operation.method, streamTail]

theorem eq_streamRoute_of_mem {root : String} {route : Route} (hm : route ∈ routes root)
    (hop : route.operation ∈ streamOperations) : route = streamRoute root route.operation := by
  simp only [routes, pages, operations, List.cons_append, List.nil_append, List.mem_cons,
    List.not_mem_nil, or_false] at hm
  rcases hm with rfl | rfl | rfl | rfl | rfl | rfl | rfl | rfl | rfl | rfl | rfl | rfl <;>
    first | rfl | simp [streamOperations] at hop

theorem route_cases {root : String} {route : Route} (hm : route ∈ routes root)
    (hmethod : route.method ≠ "POST") :
    (∃ op ∈ streamOperations, route = streamRoute root op) ∨
      (∃ word ∈ reservedWords, route.path = root ++ ("/" ++ word)) ∨
      route.path = "/docs" ++ "/oauth2-redirect" ∨ route.path = "" ++ "/health" := by
  have hword : ∀ word ∈ reservedWords, ∀ {tail : String}, tail = "/" ++ word →
      route.path = root ++ tail → ∃ word ∈ reservedWords, route.path = root ++ ("/" ++ word) := by
    rintro word hword _ rfl hpath
    exact ⟨word, hword, hpath⟩
  simp only [routes, pages, operations, List.cons_append, List.nil_append, List.mem_cons,
    List.not_mem_nil, or_false] at hm
  rcases hm with rfl | rfl | rfl | rfl | rfl | rfl | rfl | rfl | rfl | rfl | rfl | rfl
  · exact .inr (.inl (hword "openapi.json" (by decide) (by decide) rfl))
  · exact .inr (.inl (hword "docs" (by decide) (by decide) rfl))
  · exact .inr (.inr (.inl (by decide)))
  · exact .inr (.inl (hword "redoc" (by decide) (by decide) rfl))
  · exact .inr (.inr (.inr (by decide)))
  · exact .inr (.inl (hword "info" (by decide) (by decide) rfl))
  · exact absurd rfl hmethod
  · exact .inl ⟨.updateStream, by decide, rfl⟩
  · exact .inr (.inl (hword "streams" (by decide) (by decide) rfl))
  · exact .inl ⟨.viewStream, by decide, rfl⟩
  · exact .inl ⟨.deleteStream, by decide, rfl⟩
  · exact absurd rfl hmethod

theorem destination_stream {root name : String}
    (hroot : (Template.ofPath (root ++ streamTail)).Sound) (hne : name ≠ "")
    (hslash : '/' ∉ name.toList) (hleaves : Leaves root name) {op : Operation}
    (hop : op ∈ streamOperations) :
    destination (routes root) op.method (pathUnder root name) =
      .operation op name := by
  have hmethods : ∀ a ∈ streamOperations, a.method ≠ "POST" ∧
      ∀ b ∈ streamOperations, a.method = b.method → a = b := by decide
  have hname : (streamRoute root op).name? (pathUnder root name) = some name :=
    name?_stream hroot hne hslash rfl
  refine destination_of_only (streamRoute_mem hop) hname ?_
  intro other hm hmethod hother
  have hpost : other.method ≠ "POST" := hmethod ▸ (hmethods op hop).1
  rcases route_cases hm hpost with ⟨another, ha, rfl⟩ | ⟨word, hword, hpath⟩ | hpath | hpath
  · obtain rfl := (hmethods another ha).2 op hop hmethod
    exact absurd rfl hother
  · exact name?_of_word hslash hroot hleaves hword hpath
  · exact name?_of_short hslash hpath rfl (by decide) (by decide) (by decide) (by decide)
  · exact name?_of_short hslash hpath rfl (by decide) (by decide) (by decide) (by decide)

/-- Slashes divide a path, so they stay as they are. -/
def isPathByte (b : UInt8) : Bool := Percent.isUnreserved b || b == 0x2F

/-- What is written in a request for the path of a stream. -/
def streamTarget (root name : String) : String :=
  String.ofList (Percent.encodeBytes isPathByte (Utf8.encode (rootSample root ++ "/streams/"))) ++
    Percent.encodeSegment name

theorem plain_isPathByte : Percent.Plain isPathByte := by
  intro b hb
  rcases Bool.or_eq_true_iff.mp hb with hu | hslash
  · exact Percent.plain_isUnreserved b hu
  · rw [beq_iff_eq.mp hslash]
    decide

theorem decode_streamTarget (root name : String) :
    Percent.decode (streamTarget root name) = pathUnder root name := by
  have happend : ∀ s t : String, Utf8.encode s ++ Utf8.encode t = Utf8.encode (s ++ t) := by
    simp [Utf8.encode]
  have hstreams : rootSample root ++ "/streams/" = rootSample root ++ "/streams" ++ "/" :=
    String.toList_inj.mp (by simp)
  rw [pathUnder, Percent.decode, streamTarget, String.toList_append, String.toList_ofList,
    Percent.decodeBytes_encodeBytes_append plain_isPathByte, Percent.decodeBytes_encodeSegment,
    happend, Utf8.decodeLossy_encode, hstreams]

theorem path_of_target {r : Request} {root name : String} (h : r.target = streamTarget root name) :
    r.path = pathUnder root name := by
  have hquery : '?' ∉ (streamTarget root name).toList := by
    have hfront : '?' ∉
        Percent.encodeBytes isPathByte (Utf8.encode (rootSample root ++ "/streams/")) := by
      refine Percent.notMem_encodeBytes ?_ (by decide) (by decide) _
      intro b hb he
      have hn := congrArg Char.toNat he
      rw [Percent.toNat_ofNat_byte] at hn
      obtain rfl : b = 63 := UInt8.toNat_inj.mp hn
      exact absurd hb (by decide)
    have hsegment := (Percent.encoded_encodeSegment name).notMem
      (show ¬ Percent.Unreserved '?' by decide) (by decide) (by decide)
    rw [streamTarget, String.toList_append, String.toList_ofList]
    exact fun hm => (List.mem_append.mp hm).elim hfront hsegment
  rw [Request.path, h, List.takeWhile_eq_self_iff.mpr (ne_of_notMem hquery), String.ofList_toList,
    decode_streamTarget]

/-- What a target is to a stream: in a request by any of the methods it leads to the operation, and
that to the stream. -/
def Addresses (settings : Settings) (target name : String) : Prop :=
  ∀ op ∈ streamOperations, ∀ r : Request, r.method = op.method → r.target = target →
    destination (routes settings.root) r.method r.path = .operation op name

section Addresses

variable {settings : Settings} {app : App} {name : String}
  (happ : App.assemble settings = .ok app)
include happ

theorem sound_of_assemble : (Template.ofPath (settings.root ++ streamTail)).Sound := by
  have hobjection : App.objection? settings = none := by
    unfold App.assemble at happ
    split at happ
    · cases happ
    · next h => exact h
  have hroutes : (operations settings.root).findSome? App.routeObjection? = none := by
    unfold App.objection? at hobjection
    split at hobjection
    · cases hobjection
    split at hobjection
    · cases hobjection
    split at hobjection
    · cases hobjection
    split at hobjection
    · cases hobjection
    split at hobjection
    · cases hobjection
    · exact hobjection
  have hview := List.findSome?_eq_none_iff.mp hroutes (streamRoute settings.root .viewStream)
    (by simp [operations, streamRoute, Operation.method, streamTail])
  refine Template.sound_of_objection? ?_
  show Template.objection? (streamRoute settings.root .viewStream).path = none
  unfold App.routeObjection? at hview
  split at hview
  · cases hview
  · cases hview
  · next h _ => exact h
  · next h _ => exact h

theorem addresses_streamTarget (hne : name ≠ "") (hslash : '/' ∉ name.toList)
    (hleaves : Leaves settings.root name) :
    Addresses settings (streamTarget settings.root name) name := by
  intro op hop r hmethod htarget
  rw [hmethod, path_of_target htarget]
  exact destination_stream (sound_of_assemble happ) hne hslash hleaves hop

theorem slash_notMem_of_destination {method path : String} {op : Operation}
    (hop : op ∈ streamOperations)
    (h : destination (routes settings.root) method path = .operation op name) :
    '/' ∉ name.toList := by
  obtain ⟨route, hm, -, rfl, hname⟩ := exists_route_of_destination h
  have hpath : route.path = settings.root ++ streamTail := by
    rw [eq_streamRoute_of_mem hm hop]
    rfl
  obtain ⟨front, found, -, -, -, hslash⟩ :=
    exists_fits_of_stream hpath (sound_of_assemble happ) hname
  exact hslash

theorem exists_addresses_iff (hne : name ≠ "") (hleaves : Leaves settings.root name) :
    (∃ target, Addresses settings target name) ↔ '/' ∉ name.toList := by
  constructor
  · rintro ⟨target, h⟩
    exact slash_notMem_of_destination happ (by decide)
      (h .viewStream (by decide) ⟨"GET", target, [], []⟩ rfl rfl)
  · intro hslash
    exact ⟨_, addresses_streamTarget happ hne hslash hleaves⟩

end Addresses

namespace Gateway

open Namespace

variable {κ : Type}

/-- A caller's requests for a stream, from its creation on, all mean one stream at the engine. -/
structure OneStream (settings : Settings) (s : Services κ) (token : String) (user : Identity)
    (target name : String) : Prop where
  created : ∀ (r : Request) path content v q found,
    destination (routes settings.root) r.method r.path = .operation .createStream path →
    bearer? r = some token → Body.parse r = .ok content → content.Stands v →
    StreamRequest.read .caller v = .ok q → q.name = name →
    (s.channel q.topic token).outcome = .ok found →
    (serve settings s r).calls = [.identity token, .channel q.topic token,
      .engine ⟨.post, "streams", some
        (Services.declarationBody settings (qualify user.id name) q.topic q.row)⟩].flatMap s.asked
  updated : ∀ (r : Request) content v q found, r.method = "PUT" → r.target = target →
    bearer? r = some token → Body.parse r = .ok content → content.Stands v →
    StreamUpdate.read .caller v = .ok q → (s.channel q.topic token).outcome = .ok found →
    (serve settings s r).calls = [.identity token, .channel q.topic token,
      .engine ⟨.put, streamPath (qualify user.id name), some
        (Services.declarationBody settings (qualify user.id name) q.topic q.row)⟩].flatMap s.asked
  viewed : ∀ r : Request, r.method = "GET" → r.target = target → bearer? r = some token →
    (serve settings s r).calls = [.identity token,
      .engine ⟨.get, streamPath (qualify user.id name), none⟩].flatMap s.asked
  deleted : ∀ r : Request, r.method = "DELETE" → r.target = target → bearer? r = some token →
    (serve settings s r).calls = [.identity token,
      .engine ⟨.delete, streamPath (qualify user.id name), none⟩].flatMap s.asked

section Serve

variable {settings : Settings} {s : Services κ} {r : Request} {token : String} {user : Identity}
  {task : Task}

theorem calls_serve_of_task {op : Operation} {name : String} {i : Intake} {request : EngineRequest}
    (hu : (s.identify token).outcome = .ok user)
    (hd : destination (routes settings.root) r.method r.path = .operation op name)
    (hi : op.intake? name = some i) (hb : bearer? r = some token) (ha : i.Asks r task)
    (hc : s.behaviour.Admits token task) (haction : task.HasAction)
    (hr : (task.plan settings user.id).request = .ok request) :
    (serve settings s r).calls =
      (.identity token :: (channelQuestion token task ++ [.engine request])).flatMap s.asked := by
  have hm := mirrors_of_task s (Demand.ofRequest_eq_task_iff.mpr ⟨op, name, i, hd, hi, hb, ha⟩)
  have hcourse := perform_course s.behaviour settings token task
  rw [hm.calls, Services.calls_perform, Services.questions,
    hcourse.eq_of_sent hu haction hc hr]

theorem oneStream_of_addresses {target name : String} (h : Addresses settings target name)
    (hu : (s.identify token).outcome = .ok user) :
    OneStream settings s token user target name := by
  constructor
  · intro r path content v q found hd hb hp hv hq hname hfound
    subst hname
    exact calls_serve_of_task hu hd rfl hb (Intake.asks_map hp hv hq)
      (Behaviour.admits_of_found rfl hfound) trivial rfl
  · intro r content v q found hmethod htarget hb hp hv hq hfound
    have hd := h .updateStream (by decide) r hmethod htarget
    exact calls_serve_of_task hu hd rfl hb (Intake.asks_map hp hv hq)
      (Behaviour.admits_of_found rfl hfound) trivial rfl
  · intro r hmethod htarget hb
    have hd := h .viewStream (by decide) r hmethod htarget
    exact calls_serve_of_task hu hd rfl hb (.path (.viewStream name))
      (Behaviour.admits_of_no_channel _ token rfl) trivial rfl
  · intro r hmethod htarget hb
    have hd := h .deleteStream (by decide) r hmethod htarget
    exact calls_serve_of_task hu hd rfl hb (.path (.deleteStream name))
      (Behaviour.admits_of_no_channel _ token rfl) trivial rfl

end Serve

/-- A stream that can be created can be addressed if and only if there is no slash in its name. The
path is then one under the root, and whoever asks for it means the stream that was created. -/
theorem stream_reachability {settings : Settings} {app : App}
    (happ : App.assemble settings = .ok app) {v : Json} {q : StreamRequest}
    (hq : StreamRequest.read .caller v = .ok q) (hleaves : Leaves settings.root q.name)
    (s : Services κ) :
    ((∃ target, Addresses settings target q.name) ↔ '/' ∉ q.name.toList) ∧
      ('/' ∉ q.name.toList → Addresses settings (streamTarget settings.root q.name) q.name) ∧
      (∀ r : Request, r.target = streamTarget settings.root q.name →
        ∃ front found, r.path = front ++ "/streams" ++ "/" ++ q.name ∧
          (Template.ofPath settings.root).match? front = some found ∧
          ('\x7b' ∉ settings.root.toList → front = settings.root)) ∧
      ∀ target token user, Addresses settings target q.name →
        (s.identify token).outcome = .ok user →
        OneStream settings s token user target q.name := by
  obtain ⟨-, -, ⟨-, hne⟩, -⟩ := StreamRequest.read_eq_ok_iff.mp hq
  refine ⟨exists_addresses_iff happ hne hleaves, ?_, ?_, ?_⟩
  · intro hslash
    exact addresses_streamTarget happ hne hslash hleaves
  · intro r hr
    have hknown := known_of_sound (sound_of_assemble happ)
    have hend : ∃ found, Template.matchFrom? [] [] = some found := ⟨[], rfl⟩
    obtain ⟨found, hfound⟩ := Template.exists_matchFrom?_sample hknown hend
    rw [List.append_nil, List.append_nil] at hfound
    refine ⟨rootSample settings.root, found, path_of_target hr, ?_, rootSample_of_plain⟩
    rw [Template.match?, rootSample, String.toList_ofList, hfound]
  · intro target token user h hu
    exact oneStream_of_addresses h hu

namespace Names

def draft (name : String) : Json :=
  .obj [("name", .str name), ("topic", .str "c"), ("row", .str "level float")]

theorem assembled : App.assemble .usual = .ok ⟨.usual⟩ := by
  have h : (App.objection? .usual).isNone = true := by decide +kernel
  rw [App.assemble, Option.isNone_iff_eq_none.mp h]

theorem leaves (name : String) : Leaves Settings.usual.root name :=
  leaves_of_plain (by decide) name

def services : Services Question :=
  Behaviour.services ⟨fun _ => .ok ⟨"a-b", none⟩, fun _ _ => .ok .null,
    fun _ => .ok ⟨200, "", .ok []⟩⟩

def deletion (target : String) : Request := ⟨"DELETE", target, [("authorization", "Bearer t")], []⟩

theorem marks_are_reached :
    App.assemble .usual = .ok ⟨.usual⟩ ∧
      StreamRequest.read .caller (draft "..%41?") = .ok ⟨"..%41?", "c", "level float"⟩ ∧
      Leaves Settings.usual.root "..%41?" ∧
      Addresses .usual "/api/rules-engine/streams/..%2541%3F" "..%41?" ∧
      (serve .usual services (deletion "/api/rules-engine/streams/..%2541%3F")).calls =
        [.identity "t", .engine ⟨.delete, "streams/ab_..%2541%3F", none⟩] := by
  have hq : StreamRequest.read .caller (draft "..%41?") = .ok ⟨"..%41?", "c", "level float"⟩ := rfl
  obtain ⟨-, hreached, -, hstream⟩ :=
    stream_reachability assembled hq (leaves "..%41?") services
  have htarget : streamTarget Settings.usual.root "..%41?" =
      "/api/rules-engine/streams/..%2541%3F" := by decide +kernel
  have haddresses : Addresses .usual "/api/rules-engine/streams/..%2541%3F" "..%41?" :=
    htarget ▸ hreached (by decide)
  have hb : bearer? (deletion "/api/rules-engine/streams/..%2541%3F") = some "t" := by
    decide +kernel
  have hpath : Namespace.streamPath (Namespace.qualify "a-b" "..%41?") =
      "streams/ab_..%2541%3F" := by decide +kernel
  have hone := hstream _ "t" ⟨"a-b", none⟩ haddresses rfl
  have hcalls := hone.deleted _ rfl rfl hb
  rw [hpath] at hcalls
  exact ⟨assembled, hq, leaves "..%41?", haddresses, hcalls⟩

/-- A name that is accepted when the stream is created, and that no request leads to. -/
theorem slash_is_out_of_reach :
    App.assemble .usual = .ok ⟨.usual⟩ ∧
      StreamRequest.read .caller (draft "a/b") = .ok ⟨"a/b", "c", "level float"⟩ ∧
      ∀ op ∈ streamOperations, ∀ r : Request,
        destination (routes Settings.usual.root) r.method r.path ≠ .operation op "a/b" := by
  refine ⟨assembled, rfl, ?_⟩
  intro op hop r hd
  exact slash_notMem_of_destination assembled hop hd (by decide)

end Names

end Gateway

end TenantGateway.Http
