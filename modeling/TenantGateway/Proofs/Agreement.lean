import TenantGateway.Proofs.Answers
import TenantGateway.Proofs.Network
import TenantGateway.Proofs.Queries

/-! # Agreement on names

One name for a stream at the engine, in whatever way it is written there: in the statement that
declares it, in the path that addresses it, and as the source of a query. In answers it is taken for
the caller's own name again.
-/
namespace TenantGateway

open Namespace Text

variable {κ : Type}

theorem exists_declaration_eq (name topic row format kind : String) :
    ∃ tail, declaration name topic row format kind = "create stream " ++ name ++ " (" ++ tail := by
  unfold declaration
  simp only [String.append_assoc, String.append_right_inj, exists_eq']

/-- What a user's stream is called in each task that names it: `qualify user name` at the engine and
`name` in answers. -/
structure OneName (s : Services κ) (settings : Settings) (token user name topic row : String) :
    Prop where
  declared : ∃ statement tail, statement = "create stream " ++ qualify user name ++ " (" ++ tail ∧
    (∀ request, .engine request ∈ s.questions settings token (.createStream name topic row) ↔
      s.behaviour.Admits token (.createStream name topic row) ∧
        request = ⟨.post, "streams", some (.obj [("sql", .str statement)])⟩) ∧
    (∀ request, .engine request ∈ s.questions settings token (.updateStream name topic row) ↔
      s.behaviour.Admits token (.updateStream name topic row) ∧
        request = ⟨.put, "streams/" ++ Percent.encodeSegment (qualify user name),
          some (.obj [("sql", .str statement)])⟩)
  viewed : ∀ request, .engine request ∈ s.questions settings token (.viewStream name) ↔
    request = ⟨.get, "streams/" ++ Percent.encodeSegment (qualify user name), none⟩
  deleted : ∀ request, .engine request ∈ s.questions settings token (.deleteStream name) ↔
    request = ⟨.delete, "streams/" ++ Percent.encodeSegment (qualify user name), none⟩
  shown : ∀ answer v stream,
    (s.engine ⟨.get, "streams/" ++ Percent.encodeSegment (qualify user name), none⟩).outcome =
      .ok answer →
    answer.status ≠ 404 → answer.json = .ok v → Stream.read .program v = .ok stream →
    stream.name = qualify user name →
    (s.perform settings token (.viewStream name)).outcome = .ok (.stream { stream with name })
  listed : ∀ answer (names : List String), (s.engine ⟨.get, "streams", none⟩).outcome = .ok answer →
    answer.json = .ok (.arr (names.map .str)) →
    ∃ found, (s.perform settings token .listStreams).outcome = .ok (.names found) ∧
      found.length = names.length ∧
      ∀ i : Nat, names[i]? = some (qualify user name) → found[i]? = some name
  queried : (∀ c ∈ user.toList, isBlank c = false) → ∀ rule before after,
    words rule.sql = before ++ "from" :: name :: after → "from" ∉ before →
    ∃ sql, words sql = before ++ "from" :: qualify user name :: after ∧
      ∀ request, .engine request ∈ s.questions settings token (.createRule rule) ↔
        s.behaviour.Admits token (.createRule rule) ∧ rule.actions ≠ [] ∧
          request = ⟨.post, "rules",
            some (Rule.toJson { rule with id := qualify user rule.id, sql })⟩

variable {s : Services κ} {settings : Settings} {token : String} {user : Identity}

theorem stream_name_agreement (hu : (s.identify token).outcome = .ok user)
    (name topic row : String) : OneName s settings token user.id name topic row := by
  have hview : ∀ request, .engine request ∈ s.questions settings token (.viewStream name) ↔
      request = ⟨.get, streamPath (qualify user.id name), none⟩ := fun _ =>
    Services.engine_mem_questions_iff_of_no_channel (.viewStream name) hu trivial rfl rfl
  have hlist : ∀ request, .engine request ∈ s.questions settings token .listStreams ↔
      request = ⟨.get, "streams", none⟩ := fun _ =>
    Services.engine_mem_questions_iff_of_no_channel .listStreams hu trivial rfl rfl
  constructor
  · obtain ⟨tail, ht⟩ := exists_declaration_eq (qualify user.id name) topic row
      settings.streamFormat settings.streamKind
    exact ⟨_, tail, ht,
      fun _ => Services.engine_mem_questions_iff_of_plan (.createStream name topic row) hu
        trivial rfl,
      fun _ => Services.engine_mem_questions_iff_of_plan (.updateStream name topic row) hu
        trivial rfl⟩
  · exact hview
  · exact fun _ => Services.engine_mem_questions_iff_of_no_channel (.deleteStream name) hu
      trivial rfl rfl
  · intro answer v stream ha hs hj hr hn
    rw [Services.outcome_of_answer hu ((hview _).mpr rfl)]
    show (s.engine ⟨.get, "streams/" ++ _, none⟩).outcome >>= _ = _
    rw [ha]
    show (Services.streamOf user.id answer).map Product.stream = _
    rw [Services.streamOf_of_read user.id hs hj hr, hn, unqualify_qualify]
    rfl
  · intro answer names ha hj
    refine ⟨unqualifyAll user.id names, ?_, List.length_map .., fun i hi => ?_⟩
    · rw [Services.outcome_of_answer hu ((hlist _).mpr rfl), ha]
      show (Services.streamNames user.id answer).map Product.names = _
      rw [Services.streamNames_of_texts user.id hj]
      rfl
    · rw [unqualifyAll, List.getElem?_map, hi]
      exact congrArg some (unqualify_qualify user.id name)
  · intro hblank rule before after hw hb
    obtain ⟨sql, hq, hs⟩ := exists_qualifyQuery_words hblank hw hb
    refine ⟨sql, hs, fun request => ?_⟩
    have hp : ((Task.createRule rule).plan settings user.id).request =
        .ok ⟨.post, "rules",
          some (Rule.toJson { rule with id := qualify user.id rule.id, sql })⟩ := by
      show Task.ruleRequest user.id rule = _
      rw [Task.ruleRequest, hq]
      rfl
    rw [Services.engine_mem_questions_iff hu, hp, Except.ok.injEq, eq_comm (b := request)]
    rfl

namespace Alias

def services (body : Bytes) : Services Question :=
  Behaviour.services ⟨fun _ => .ok ⟨"a-b", none⟩, fun _ _ => .ok (.obj []),
    fun _ => .ok ⟨200, "", .ok body⟩⟩

/-- The octets of `{"Name":"ab_x"}`. -/
def description : Bytes :=
  [0x7B, 0x22, 0x4E, 0x61, 0x6D, 0x65, 0x22, 0x3A, 0x22, 0x61, 0x62, 0x5F, 0x78, 0x22, 0x7D]

/-- The octets of `["ab_x"]`. -/
def catalogue : Bytes := [0x5B, 0x22, 0x61, 0x62, 0x5F, 0x78, 0x22, 0x5D]

def rule : Rule := ⟨"r", "select level from x", [⟨⟨"", 0, "c", "", "", ""⟩⟩]⟩

theorem json_description : Response.json ⟨200, "", .ok description⟩ =
    .ok (.obj [("Name", .str "ab_x")]) := by
  have ht : Response.plainJson? "" description = some "\x7b\"Name\":\"ab_x\"\x7d" := by
    simp only [Response.plainJson?, Response.charset?_empty]
    decide +kernel
  have hp : Json.parse "\x7b\"Name\":\"ab_x\"\x7d" = .ok (.obj [("Name", .str "ab_x")]) := by
    cbv
  simp only [Response.json, ht, Except.bind, hp, Except.mapError_ok]

theorem json_catalogue : Response.json ⟨200, "", .ok catalogue⟩ = .ok (.arr [.str "ab_x"]) := by
  have ht : Response.plainJson? "" catalogue = some "[\"ab_x\"]" := by
    simp only [Response.plainJson?, Response.charset?_empty]
    decide +kernel
  have hp : Json.parse "[\"ab_x\"]" = .ok (.arr [.str "ab_x"]) := by cbv
  simp only [Response.json, ht, Except.bind, hp, Except.mapError_ok]

theorem ab_x_is_x :
    ((services description).identify "t").outcome = .ok ⟨"a-b", none⟩ ∧
      ((services description).perform .usual "t" (.viewStream "x")).outcome =
        .ok (.stream ⟨"x", [], []⟩) ∧
      (∃ found, ((services catalogue).perform .usual "t" .listStreams).outcome =
        .ok (.names found) ∧ found[0]? = some "x") ∧
      ∃ sql, words sql = ["select", "level", "from", "ab_x"] ∧
        .engine ⟨.post, "rules", some (Rule.toJson { rule with id := "ab_r", sql })⟩ ∈
          (services description).questions .usual "t" (.createRule rule) := by
  have hu : ∀ body, ((services body).identify "t").outcome = .ok ⟨"a-b", none⟩ := fun _ => rfl
  have hview : OneName (services description) .usual "t" "a-b" "x" "c" "level float" :=
    stream_name_agreement (hu description) "x" "c" "level float"
  have hlist : OneName (services catalogue) .usual "t" "a-b" "x" "c" "level float" :=
    stream_name_agreement (hu catalogue) "x" "c" "level float"
  refine ⟨hu description, ?_, ?_, ?_⟩
  · exact hview.shown ⟨200, "", .ok description⟩ _ ⟨"ab_x", [], []⟩ rfl (by decide)
      json_description rfl rfl
  · obtain ⟨found, ho, -, hf⟩ := hlist.listed ⟨200, "", .ok catalogue⟩ ["ab_x"] rfl json_catalogue
    exact ⟨found, ho, hf 0 rfl⟩
  · have hblank : ∀ c ∈ "a-b".toList, isBlank c = false := by simp [isBlank, isSpace]
    obtain ⟨sql, hw, hr⟩ := hview.queried hblank rule ["select", "level"] [] rfl (by decide)
    refine ⟨sql, hw, (hr _).mpr ⟨?_, by decide, rfl⟩⟩
    rintro _ ⟨rfl⟩
    exact ⟨_, rfl⟩

end Alias

end TenantGateway
