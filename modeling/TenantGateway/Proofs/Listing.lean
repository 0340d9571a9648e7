import TenantGateway.Proofs.Content
import TenantGateway.Proofs.Percent
import TenantGateway.Proofs.Writing

/-! # Lists of streams

What a user is shown of the engine's list of streams. Every name is shown, in its place. Two names
are shown alike only where one is the user's own and the other is what it is shown as.
-/
namespace TenantGateway

open Namespace Text

/-- An answer of which the content is a list of names. -/
def Response.Lists (r : Response) (names : List String) : Prop :=
  ∃ v, r.json = .ok v ∧ v.Lists names

section Names

variable {r : Response} {bs : Bytes} {user : String} {names shown : List String}

theorem streamNames_eq_ok_iff :
    Services.streamNames user r = .ok shown ↔
      ∃ names, r.Lists names ∧ List.Forall₂ (ShownAs user) names shown := by
  rw [Services.streamNames_eq_bind, Except.bind_eq_ok_iff]
  constructor
  · rintro ⟨v, hd, hm⟩
    obtain ⟨_, hj, ⟨⟩⟩ := Services.decode_eq_ok_iff.mp hd
    cases hn : Services.namesOf v with
    | error f =>
      rw [hn] at hm
      cases hm
    | ok names =>
      rw [hn] at hm
      cases hm
      exact ⟨names, ⟨v, hj, Services.namesOf_eq_ok_iff.mp hn⟩, forall₂_shownAs_iff.mpr rfl⟩
  · rintro ⟨names, ⟨v, hj, hv⟩, hs⟩
    refine ⟨v, Services.decode_of_ok hj rfl, ?_⟩
    rw [Services.namesOf_eq_ok_iff.mpr hv, ← forall₂_shownAs_iff.mp hs]
    rfl

theorem streamNames_yields (user : String) (hb : r.body = .ok bs) :
    Yields r .malformed (fun shown => ∃ names, r.Lists names ∧
      List.Forall₂ (ShownAs user) names shown) (Services.streamNames user r) := by
  have hd : Yields r .malformed _ (Services.decode "" .ok .streamList r) := decode_yields hb rfl
  refine .of_fault (fun shown => streamNames_eq_ok_iff) (fun c hc => ?_) fun f hf => ?_
  · rw [Services.streamNames_eq_bind]
    exact Except.bind_eq_error_iff.mpr (.inl ((hd.too_deep c).mpr hc))
  · rw [Services.streamNames_eq_bind] at hf
    rcases Except.bind_eq_error_iff.mp hf with hf | ⟨v, -, hv⟩
    · exact hd.fault hf
    · rw [Services.namesOf_fault (Except.map_eq_error_iff.mp hv)]
      exact .inl ⟨_, _, rfl, rfl⟩

theorem Response.Lists.unique (hn : r.Lists names) {others : List String} (ho : r.Lists others) :
    names = others := by
  obtain ⟨v, hj, hv⟩ := hn
  obtain ⟨w, hk, hw⟩ := ho
  cases hj.symm.trans hk
  cases (Services.namesOf_eq_ok_iff.mpr hv).symm.trans (Services.namesOf_eq_ok_iff.mpr hw)
  rfl

theorem Response.Lists.written (hn : r.Lists names) (hp : r.Paired) :
    ∀ name ∈ names, r.Writes name := by
  obtain ⟨v, hj, hv⟩ := hn
  intro name hname
  refine hp.writes hj ?_
  cases hv with
  | null => cases hname
  | texts => exact .item (List.mem_map_of_mem hname) .text

theorem exists_shownAs (user : String) (names : List String) :
    ∃ shown, List.Forall₂ (ShownAs user) names shown := ⟨_, forall₂_shownAs_iff.mpr rfl⟩

theorem exists_shownAs_of_getElem? (hs : List.Forall₂ (ShownAs user) names shown) {i : Nat}
    {name : String} (hi : names[i]? = some name) :
    ∃ x, shown[i]? = some x ∧ ShownAs user name x := by
  have hl : names.length = shown.length := hs.length_eq
  obtain ⟨hn, rfl⟩ := List.getElem?_eq_some_iff.mp hi
  have hx : i < shown.length := hl ▸ hn
  exact ⟨shown[i], List.getElem?_eq_getElem hx, hs.get hn hx⟩

theorem getElem?_eq_iff_of_shownAs (hs : List.Forall₂ (ShownAs user) names shown) {i j : Nat}
    {y z : String} (hi : names[i]? = some y) (hj : names[j]? = some z) (hne : y ≠ z) :
    shown[i]? = shown[j]? ↔ (y = qualify user z ∧ ¬ (tag user).toList <+: z.toList) ∨
      (z = qualify user y ∧ ¬ (tag user).toList <+: y.toList) := by
  obtain ⟨x, hx, hyx⟩ := exists_shownAs_of_getElem? hs hi
  obtain ⟨w, hw, hzw⟩ := exists_shownAs_of_getElem? hs hj
  rw [hx, hw, Option.some.injEq]
  exact hyx.eq_iff hzw hne

theorem getElem?_eq_iff_of_own (hs : List.Forall₂ (ShownAs user) names shown) {i j : Nat}
    {n m : String} (hi : names[i]? = some (qualify user n))
    (hj : names[j]? = some (qualify user m)) : shown[i]? = shown[j]? ↔ n = m := by
  -- One name may stand in the list twice.
  by_cases hne : qualify user n = qualify user m
  · obtain rfl := qualify_injective hne
    obtain ⟨x, hx, hnx⟩ := exists_shownAs_of_getElem? hs hi
    obtain ⟨w, hw, hnw⟩ := exists_shownAs_of_getElem? hs hj
    rw [hx, hw, ← shownAs_iff.mp hnx, ← shownAs_iff.mp hnw]
    exact iff_of_true rfl rfl
  · rw [getElem?_eq_iff_of_shownAs hs hi hj hne]
    constructor
    · rintro (⟨-, hf⟩ | ⟨-, hf⟩) <;> exact absurd (tag_prefix_qualify user _) hf
    · rintro rfl
      exact absurd rfl hne

end Names

/-- What names are shown as to a user, and what they stand for when the user asks for them. -/
structure Shown {κ : Type} (s : Services κ) (settings : Settings) (token user : String)
    (names shown : List String) : Prop where
  each : List.Forall₂ (ShownAs user) names shown
  confused : ∀ (i j : Nat) y z, names[i]? = some y → names[j]? = some z → y ≠ z →
    (shown[i]? = shown[j]? ↔ (y = qualify user z ∧ ¬ (tag user).toList <+: z.toList) ∨
      (z = qualify user y ∧ ¬ (tag user).toList <+: y.toList))
  apart : ∀ (i j : Nat) n m, names[i]? = some (qualify user n) →
    names[j]? = some (qualify user m) → (shown[i]? = shown[j]? ↔ n = m)
  addressed : ∀ (i : Nat) y x, names[i]? = some y → shown[i]? = some x →
    (.engine ⟨.get, "streams/" ++ Percent.encodeSegment y, none⟩ ∈
      s.questions settings token (.viewStream x) ↔ (tag user).toList <+: y.toList)

section Listing

variable {κ : Type} {s : Services κ} {token : String} {user : Identity} {answer : Response}
  {bs : Bytes}

theorem addressed_iff (hu : (s.identify token).outcome = .ok user) (settings : Settings)
    {name shown : String} (h : ShownAs user.id name shown) :
    .engine ⟨.get, "streams/" ++ Percent.encodeSegment name, none⟩ ∈
      s.questions settings token (.viewStream shown) ↔ (tag user.id).toList <+: name.toList := by
  have hq : ∀ request, .engine request ∈ s.questions settings token (.viewStream shown) ↔
      request = ⟨.get, streamPath (qualify user.id shown), none⟩ := fun _ =>
    Services.engine_mem_questions_iff_of_no_channel (.viewStream shown) hu trivial rfl rfl
  rw [← h.qualify_eq_iff]
  refine (hq ⟨.get, streamPath name, none⟩).trans ?_
  constructor
  · intro he
    have hp : streamPath name = streamPath (qualify user.id shown) :=
      congrArg EngineRequest.path he
    exact (Percent.encodeSegment_injective ((String.append_right_inj _).mp hp)).symm
  · rintro rfl
    rfl

theorem shown_of_forall₂ (hu : (s.identify token).outcome = .ok user) (settings : Settings)
    {names shown : List String} (hs : List.Forall₂ (ShownAs user.id) names shown) :
    Shown s settings token user.id names shown := by
  constructor
  · exact hs
  · exact fun i j y z hi hj hne => getElem?_eq_iff_of_shownAs hs hi hj hne
  · exact fun i j n m hi hj => getElem?_eq_iff_of_own hs hi hj
  · intro i y x hi hx
    obtain ⟨w, hw, hyw⟩ := exists_shownAs_of_getElem? hs hi
    cases hx.symm.trans hw
    exact addressed_iff hu settings hyw

theorem outcome_listStreams (hu : (s.identify token).outcome = .ok user)
    (ha : (s.engine ⟨.get, "streams", none⟩).outcome = .ok answer) (settings : Settings) :
    (s.perform settings token .listStreams).outcome =
      (Services.streamNames user.id answer).map .names := by
  refine Services.outcome_of_answered hu ?_ ha
  exact (Services.engine_mem_questions_iff_of_no_channel .listStreams hu trivial rfl rfl).mpr rfl

/-- A known caller is shown every name of the engine's list, and no name that is not there. Any
other content is refused, unless it nests too deep. -/
theorem streams_listed (hu : (s.identify token).outcome = .ok user)
    (ha : (s.engine ⟨.get, "streams", none⟩).outcome = .ok answer) (hb : answer.body = .ok bs)
    (hp : answer.Paired) (settings : Settings) :
    Yields answer .malformed (fun p => ∃ shown, (∃ names, answer.Lists names ∧
      List.Forall₂ (ShownAs user.id) names shown) ∧ p = .names shown)
      (s.perform settings token .listStreams).outcome ∧
    ((∃ p, (s.perform settings token .listStreams).outcome = .ok p) ↔
      ∃ names, answer.Lists names) ∧
    ∀ names shown, answer.Lists names →
      (s.perform settings token .listStreams).outcome = .ok (.names shown) →
      (∀ name ∈ names, answer.Writes name) ∧ Shown s settings token user.id names shown := by
  have hy := (streamNames_yields user.id hb).map Product.names
  rw [← outcome_listStreams hu ha settings] at hy
  refine ⟨hy, ⟨?_, ?_⟩, ?_⟩
  · rintro ⟨p, ho⟩
    obtain ⟨_, ⟨names, hn, -⟩, -⟩ := (hy.value p).mp ho
    exact ⟨names, hn⟩
  · rintro ⟨names, hn⟩
    obtain ⟨shown, hs⟩ := exists_shownAs user.id names
    exact ⟨_, (hy.value _).mpr ⟨shown, ⟨names, hn, hs⟩, rfl⟩⟩
  · intro names shown hn ho
    obtain ⟨_, ⟨found, hf, hs⟩, ⟨⟩⟩ := (hy.value _).mp ho
    obtain rfl := hn.unique hf
    exact ⟨hn.written hp, shown_of_forall₂ hu settings hs⟩

end Listing

namespace Overlap

def text : String := String.ofList ('[' :: Json.itemsText "ab_x" ["x", "ab_ab_x"] [])

def answer : Response := ⟨500, "", .ok (Utf8.encode text)⟩

def services : Services Question := .answering answer

theorem encode_text : ∃ bs, Utf8.encode text = 0x5B :: 0x22 :: 0x61 :: 0x62 :: bs := by
  rw [Utf8.encode, text, String.toList_ofList]
  exact ⟨_, rfl⟩

theorem lists_answer : answer.Lists ["ab_x", "x", "ab_ab_x"] := by
  obtain ⟨bs, hs⟩ := encode_text
  have hj : answer.json = (Json.parse text).mapError .ofParse :=
    Response.json_of_utf8 rfl hs rfl rfl
  have hp : Json.parse text = .ok (.arr (["ab_x", "x", "ab_ab_x"].map .str)) :=
    Json.parse_itemsText rfl (by decide)
  rw [hp] at hj
  exact ⟨_, hj, .texts ["ab_x", "x", "ab_ab_x"]⟩

theorem paired_answer : answer.Paired := by
  obtain ⟨bs, hs⟩ := encode_text
  refine Response.paired_of_plain rfl rfl (Response.plainJson?_of_utf8 rfl hs rfl) ?_
  rw [text, String.toList_ofList]
  rfl

/-- Both `ab_x` and `x` are shown as `x`, which is taken for `ab_x`. -/
theorem x_stands_for_ab_x :
    (services.identify "t").outcome = .ok ⟨"a-b", none⟩ ∧
      (services.engine ⟨.get, "streams", none⟩).outcome = .ok answer ∧
      answer.body = .ok (Utf8.encode text) ∧ answer.Paired ∧
      (services.perform .usual "t" .listStreams).outcome = .ok (.names ["x", "x", "ab_x"]) ∧
      .engine ⟨.get, "streams/ab_x", none⟩ ∈ services.questions .usual "t" (.viewStream "x") ∧
      .engine ⟨.get, "streams/x", none⟩ ∉ services.questions .usual "t" (.viewStream "x") := by
  have hu : (services.identify "t").outcome = .ok ⟨"a-b", none⟩ := rfl
  have ha : (services.engine ⟨.get, "streams", none⟩).outcome = .ok answer := rfl
  obtain ⟨hy, -, hshown⟩ := streams_listed hu ha rfl paired_answer .usual
  have ho : (services.perform .usual "t" .listStreams).outcome = .ok (.names ["x", "x", "ab_x"]) :=
    (hy.value _).mpr ⟨_, ⟨_, lists_answer, forall₂_shownAs_iff.mpr rfl⟩, rfl⟩
  obtain ⟨-, h⟩ := hshown _ _ lists_answer ho
  exact ⟨hu, ha, rfl, paired_answer, ho, (h.addressed 0 "ab_x" "x" rfl rfl).mpr (by decide),
    fun hx => absurd ((h.addressed 1 "x" "x" rfl rfl).mp hx) (by decide)⟩

end Overlap

namespace Bottomless

theorem list_comes_through :
    (∃ bs, Unadmitted.bottomless.body = .ok bs) ∧
      (services.engine ⟨.get, "streams", none⟩).outcome = .ok Unadmitted.bottomless ∧
      Escapes (.tooDeep .array) (services.perform .usual "t" .listStreams).outcome := by
  have ho : (services.perform .usual "t" .listStreams).outcome = .error (.tooDeep .array) := by
    have hd : Services.streamNames "a-b" Unadmitted.bottomless = .error (.tooDeep .array) := by
      rw [Services.streamNames_eq_bind, Services.decode_of_fault Unadmitted.json_bottomless]
      rfl
    have hu : (services.identify "t").outcome = .ok ⟨"a-b", none⟩ := rfl
    have ha : (services.engine ⟨.get, "streams", none⟩).outcome = .ok Unadmitted.bottomless := rfl
    rw [outcome_listStreams hu ha, hd]
    rfl
  refine ⟨⟨_, rfl⟩, rfl, ho, ?_⟩
  rintro ⟨_, _, ⟨⟩⟩

end Bottomless

end TenantGateway
