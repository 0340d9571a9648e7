import TenantGateway.Proofs.Network
import TenantGateway.Proofs.Reading

/-! # Rules on their way to the engine

A rule is sent as it was read, but for its id and the source of its query, which are the caller's
own. It is read the same again on the other side.
-/
namespace TenantGateway

open Namespace Schema

/-- Fields that a sink is read from. Other fields may stand beside them. -/
structure Sink.DrawnFrom (fields : Json.Fields) (sink : Sink) : Prop where
  host : FieldIs fields "host" text (some "") sink.host
  port : FieldIs fields "port" whole (some 0) sink.port
  channel : FieldIs fields "channel" text none sink.channel
  subtopic : FieldIs fields "subtopic" text (some "") sink.subtopic
  username : FieldIs fields "username" text (some "") sink.username
  password : FieldIs fields "password" text (some "") sink.password

theorem Sink.readFields_eq_ok_iff {fields : Json.Fields} {sink : Sink} :
    Sink.readFields fields = .ok sink ↔ sink.DrawnFrom fields := by
  simp only [readFields, Reading.ap_eq_ok_iff, Reading.map_eq_ok_iff, optional_eq_ok_iff,
    required_eq_ok_iff]
  constructor
  · rintro ⟨_, _, ⟨_, _, ⟨_, _, ⟨_, _, ⟨_, _, ⟨_, hhost, rfl⟩, hport, rfl⟩, hchannel, rfl⟩,
      hsubtopic, rfl⟩, husername, rfl⟩, hpassword, rfl⟩
    exact ⟨hhost, hport, hchannel, hsubtopic, husername, hpassword⟩
  · intro h
    exact ⟨_, _, ⟨_, _, ⟨_, _, ⟨_, _, ⟨_, _, ⟨_, h.host, rfl⟩, h.port, rfl⟩, h.channel, rfl⟩,
      h.subtopic, rfl⟩, h.username, rfl⟩, h.password, rfl⟩

theorem Sink.read_eq_ok_iff {source : Source} {v : Json} {sink : Sink} :
    Sink.read source v = .ok sink ↔ ∃ fields, v = .obj fields ∧ sink.DrawnFrom fields := by
  simp only [read, record_eq_ok_iff, readFields_eq_ok_iff]

def Action.DrawnFrom (v : Json) (action : Action) : Prop :=
  ∃ fields inner, v = .obj fields ∧ fields.lookup "mainflux" = some (.obj inner) ∧
    action.sink.DrawnFrom inner

theorem Action.read_eq_ok_iff {source : Source} {v : Json} {action : Action} :
    Action.read source v = .ok action ↔ action.DrawnFrom v := by
  simp only [read, readFields, record_eq_ok_iff, Reading.map_eq_ok_iff, required_eq_ok_iff,
    DrawnFrom]
  refine exists_congr fun fields => ?_
  constructor
  · rintro ⟨rfl, sink, hs, rfl⟩
    unfold FieldIs at hs
    split at hs
    · next w hw =>
      obtain ⟨inner, rfl, hd⟩ := Sink.read_eq_ok_iff.mp hs
      exact ⟨inner, rfl, hw, hd⟩
    · cases hs
  · rintro ⟨inner, rfl, hw, hd⟩
    refine ⟨rfl, action.sink, ?_, rfl⟩
    rw [FieldIs, hw]
    exact Sink.read_eq_ok_iff.mpr ⟨inner, rfl, hd⟩

structure Rule.DrawnFrom (fields : Json.Fields) (rule : Rule) : Prop where
  id : fields.lookup "id" = some (.str rule.id)
  sql : fields.lookup "sql" = some (.str rule.sql)
  actions : (fields.lookup "actions" = none ∧ rule.actions = []) ∨
    ∃ items, fields.lookup "actions" = some (.arr items) ∧
      List.Forall₂ Action.DrawnFrom items rule.actions

theorem Rule.fieldIs_actions_iff {source : Source} {fields : Json.Fields} {actions : List Action} :
    FieldIs fields "actions" (Rule.readActions source) (some []) actions ↔
      (fields.lookup "actions" = none ∧ actions = []) ∨
        ∃ items, fields.lookup "actions" = some (.arr items) ∧
          List.Forall₂ Action.DrawnFrom items actions := by
  unfold FieldIs
  split
  · next v hv => simp [hv, readActions, list_eq_ok_iff, Action.read_eq_ok_iff]
  · next hv => simp [hv, eq_comm]

theorem Rule.readFieldsWith_eq_ok_iff {read : Json → Reading (List Action)} {fields : Json.Fields}
    {rule : Rule} :
    Rule.readFieldsWith read fields = .ok rule ↔
      fields.lookup "id" = some (.str rule.id) ∧ fields.lookup "sql" = some (.str rule.sql) ∧
        FieldIs fields "actions" read (some []) rule.actions := by
  simp only [readFieldsWith, Reading.ap_eq_ok_iff, Reading.map_eq_ok_iff, optional_eq_ok_iff,
    required_eq_ok_iff, fieldIs_text_iff]
  constructor
  · rintro ⟨_, _, ⟨_, _, ⟨_, hid, rfl⟩, hsql, rfl⟩, hactions, rfl⟩
    exact ⟨hid, hsql, hactions⟩
  · rintro ⟨hid, hsql, hactions⟩
    exact ⟨_, _, ⟨_, _, ⟨_, hid, rfl⟩, hsql, rfl⟩, hactions, rfl⟩

theorem Rule.read_eq_ok_iff {source : Source} {v : Json} {rule : Rule} :
    Rule.read source v = .ok rule ↔ ∃ fields, v = .obj fields ∧ rule.DrawnFrom fields := by
  simp only [read, record_eq_ok_iff, readFieldsWith_eq_ok_iff, fieldIs_actions_iff]
  refine exists_congr fun fields => and_congr_right fun _ => ?_
  constructor
  · rintro ⟨hid, hsql, hactions⟩
    exact ⟨hid, hsql, hactions⟩
  · intro h
    exact ⟨h.id, h.sql, h.actions⟩

theorem Sink.drawnFrom_toJson (sink : Sink) : sink.DrawnFrom
    [("host", .str sink.host), ("port", .int sink.port), ("channel", .str sink.channel),
      ("subtopic", .str sink.subtopic), ("username", .str sink.username),
      ("password", .str sink.password)] := by
  constructor <;> exact rfl

theorem Action.drawnFrom_toJson (action : Action) : action.DrawnFrom action.toJson :=
  ⟨_, _, rfl, rfl, Sink.drawnFrom_toJson action.sink⟩

theorem Rule.read_toJson (source : Source) (rule : Rule) :
    Rule.read source rule.toJson = .ok rule := by
  refine Rule.read_eq_ok_iff.mpr ⟨_, rfl, rfl, rfl, .inr ⟨_, rfl, ?_⟩⟩
  rw [List.forall₂_map_left_iff, List.forall₂_same]
  exact fun action _ => action.drawnFrom_toJson

structure Rule.SentAs (rule : Rule) (user sql : String) (body : Json) : Prop where
  qualified : qualifyQuery user rule.sql = .ok sql
  content : ∃ items,
    body = .obj [("id", .str (qualify user rule.id)), ("sql", .str sql), ("actions", .arr items)] ∧
      List.Forall₂ (fun (action : Action) item => item = .obj [("mainflux",
        .obj [("host", .str action.sink.host), ("port", .int action.sink.port),
          ("channel", .str action.sink.channel), ("subtopic", .str action.sink.subtopic),
          ("username", .str action.sink.username), ("password", .str action.sink.password)])])
        rule.actions items
  restored : unqualify user (qualify user rule.id) = rule.id
  read_again : ∀ source,
    Rule.read source body = .ok { rule with id := qualify user rule.id, sql }

theorem Rule.sentAs_toJson {rule : Rule} {user sql : String}
    (h : qualifyQuery user rule.sql = .ok sql) :
    rule.SentAs user sql (Rule.toJson { rule with id := qualify user rule.id, sql }) := by
  constructor
  · exact h
  · refine ⟨_, rfl, ?_⟩
    rw [List.forall₂_map_right_iff, List.forall₂_same]
    exact fun action _ => rfl
  · exact unqualify_qualify user rule.id
  · exact fun source => read_toJson source _

/-- What the creation of a rule comes to. Each promise holds whatever else is wrong further on. -/
structure Rule.Precedence {κ : Type} (s : Services κ) (token : String) (rule : Rule)
    (outcome : Except Fault Product) : Prop where
  unknown : ∀ f, (s.identify token).outcome = .error f →
    outcome = .error (Services.tokenFault f)
  idle : ∀ user, (s.identify token).outcome = .ok user → rule.actions = [] →
    outcome = .error (.refusal .noActions none)
  barred : ∀ user first rest f, (s.identify token).outcome = .ok user →
    rule.actions = first :: rest → (s.channel first.sink.channel token).outcome = .error f →
    outcome = .error (Services.channelFault f)
  malformed : ∀ user first rest found reason, (s.identify token).outcome = .ok user →
    rule.actions = first :: rest → (s.channel first.sink.channel token).outcome = .ok found →
    qualifyQuery user.id rule.sql = .error reason → outcome = .error (.refusal reason none)
  sent : ∀ user first rest found sql, (s.identify token).outcome = .ok user →
    rule.actions = first :: rest → (s.channel first.sink.channel token).outcome = .ok found →
    qualifyQuery user.id rule.sql = .ok sql →
    ∃ body, rule.SentAs user.id sql body ∧
      outcome = (s.engine ⟨.post, "rules", some body⟩).outcome >>= fun answer =>
        (report "Create rule" 201 answer).map .result

section Rule

variable {κ : Type} {s : Services κ} {settings : Settings} {token : String} {rule : Rule}
  {user : Identity} {first : Action} {rest : List Action} {found : Json}

theorem Rule.channel?_of_actions (ha : rule.actions = first :: rest) :
    (Task.createRule rule).channel? = some first.sink.channel := by
  rw [Task.channel?, ha]
  rfl

theorem Rule.admits (ha : rule.actions = first :: rest)
    (hc : (s.channel first.sink.channel token).outcome = .ok found) :
    s.behaviour.Admits token (.createRule rule) :=
  Behaviour.admits_of_found (Rule.channel?_of_actions ha) hc

theorem Rule.request_of_query {sql : String} (user : String)
    (h : qualifyQuery user rule.sql = .ok sql) :
    ((Task.createRule rule).plan settings user).request =
      .ok ⟨.post, "rules", some (Rule.toJson { rule with id := qualify user rule.id, sql })⟩ := by
  show Task.ruleRequest user rule = _
  rw [Task.ruleRequest, h]
  rfl

theorem Rule.perform_of_query {sql : String} (hu : (s.identify token).outcome = .ok user)
    (ha : rule.actions = first :: rest)
    (hc : (s.channel first.sink.channel token).outcome = .ok found)
    (hq : qualifyQuery user.id rule.sql = .ok sql) :
    ∃ body, rule.SentAs user.id sql body ∧
      s.behaviour.services.perform settings token (.createRule rule) =
        ⟨[.identity token, .channel first.sink.channel token, .engine ⟨.post, "rules", some body⟩],
          (s.engine ⟨.post, "rules", some body⟩).outcome >>= fun answer =>
            (report "Create rule" 201 answer).map .result⟩ := by
  have h := perform_course s.behaviour settings token (.createRule rule)
  refine ⟨_, Rule.sentAs_toJson hq, ?_⟩
  rw [h.eq_of_sent hu (Task.hasAction_of_channel? (Rule.channel?_of_actions ha))
    (Rule.admits ha hc) (Rule.request_of_query user.id hq), channelQuestion,
    Rule.channel?_of_actions ha]
  rfl

theorem Rule.precedence (s : Services κ) (settings : Settings) (token : String) (rule : Rule) :
    Precedence s token rule (s.perform settings token (.createRule rule)).outcome := by
  have h := perform_course s.behaviour settings token (.createRule rule)
  rw [Services.outcome_perform]
  constructor
  · exact fun f hf => h.outcome_of_unknown hf
  · exact fun user hu ha => h.outcome_of_idle hu (not_not.mpr ha)
  · intro user first rest f hu ha hf
    exact h.outcome_of_barred hu (Rule.channel?_of_actions ha) hf
  · intro user first rest found reason hu ha hc hq
    have hr : ((Task.createRule rule).plan settings user.id).request =
        .error (.refusal reason none) := by
      show Task.ruleRequest user.id rule = _
      rw [Task.ruleRequest, hq]
      rfl
    exact h.outcome_of_refused hu (Task.hasAction_of_channel? (Rule.channel?_of_actions ha))
      (Rule.admits ha hc) hr
  · intro user first rest found sql hu ha hc hq
    obtain ⟨body, hb, hp⟩ := Rule.perform_of_query hu ha hc hq
    exact ⟨body, hb, congrArg Run.outcome hp⟩

theorem Rule.questions_of_found (hu : (s.identify token).outcome = .ok user)
    (ha : rule.actions = first :: rest)
    (hc : (s.channel first.sink.channel token).outcome = .ok found)
    (hs : Namespace.HasSource rule.sql) :
    ∃ sql body, rule.SentAs user.id sql body ∧
      s.questions settings token (.createRule rule) =
        [.identity token, .channel first.sink.channel token,
          .engine ⟨.post, "rules", some body⟩] := by
  obtain ⟨sql, hq⟩ := (exists_qualifyQuery_iff user.id).mpr hs
  obtain ⟨body, hb, hp⟩ := Rule.perform_of_query hu ha hc hq
  exact ⟨sql, body, hb, congrArg Run.calls hp⟩

/-- What is read as a rule is sent as that rule, under the caller's names, and of all that stands
against it the first is told. -/
theorem rule_transmission (s : Services κ) (settings : Settings) (token : String) (rule : Rule) :
    Rule.Precedence s token rule (s.perform settings token (.createRule rule)).outcome ∧
      ∀ user source v first rest found, (s.identify token).outcome = .ok user →
        Rule.read source v = .ok rule → rule.actions = first :: rest →
        (s.channel first.sink.channel token).outcome = .ok found →
        Namespace.HasSource rule.sql →
        (∃ fields, v = .obj fields ∧ rule.DrawnFrom fields) ∧
          ∃ sql body, rule.SentAs user.id sql body ∧
            s.questions settings token (.createRule rule) =
              [.identity token, .channel first.sink.channel token,
                .engine ⟨.post, "rules", some body⟩] := by
  refine ⟨Rule.precedence s settings token rule, ?_⟩
  intro user source v first rest found hu hv ha hc hs
  exact ⟨Rule.read_eq_ok_iff.mp hv, Rule.questions_of_found hu ha hc hs⟩

end Rule

namespace Relay

/-- Two sinks, one with every field and one with no more than it needs, and fields that no one asks
for. -/
def draft : Json :=
  .obj [("id", .str "r"), ("sql", .str "select v  from x"), ("note", .null),
    ("actions", .arr [
      .obj [("mainflux", .obj [("host", .str "h"), ("port", .str " 4222 "), ("channel", .str "c"),
        ("subtopic", .str "s"), ("username", .str "u"), ("password", .str "p")])],
      .obj [("mainflux", .obj [("channel", .str "d"), ("tls", .bool true)])]])]

def rule : Rule :=
  ⟨"r", "select v  from x", [⟨⟨"h", 4222, "c", "s", "u", "p"⟩⟩, ⟨⟨"", 0, "d", "", "", ""⟩⟩]⟩

def services : Services Question :=
  Behaviour.services ⟨fun _ => .ok ⟨"a-b", none⟩, fun _ _ => .ok .null,
    fun _ => .ok ⟨201, "", .ok []⟩⟩

theorem hasSource_rule : Namespace.HasSource rule.sql :=
  ⟨["select", "v"], "x", [], rfl, by decide⟩

theorem draft_relayed :
    (services.identify "t").outcome = .ok ⟨"a-b", none⟩ ∧ Rule.read .program draft = .ok rule ∧
      (services.channel "c" "t").outcome = .ok .null ∧ Namespace.HasSource rule.sql ∧
      ∃ sql body, rule.SentAs "a-b" sql body ∧
        services.questions .usual "t" (.createRule rule) =
          [.identity "t", .channel "c" "t", .engine ⟨.post, "rules", some body⟩] := by
  obtain ⟨-, hsent⟩ := rule_transmission services .usual "t" rule
  have hread : Rule.read .program draft = .ok rule := rfl
  obtain ⟨-, sent⟩ := hsent ⟨"a-b", none⟩ .program draft _ _ .null rfl hread rfl rfl hasSource_rule
  exact ⟨rfl, hread, rfl, hasSource_rule, sent⟩

end Relay

end TenantGateway
