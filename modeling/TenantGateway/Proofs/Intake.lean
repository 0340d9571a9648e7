import TenantGateway.Http.Gateway
import TenantGateway.Proofs.Containment
import TenantGateway.Proofs.Reading

/-! # Intake

What a request for an operation asks for. Its body is taken apart, then the caller's token is looked
at, and then the body is read; the first of these that fails settles the request.
-/
namespace TenantGateway.Http

open Schema

/-- How a task is read from a request: from its path alone, or from its body too. -/
inductive Intake where
  | path (task : Task)
  | body (read : Json → Reading Task)

def Operation.intake? (name : String) : Operation → Option Intake
  | .createStream => some <| .body fun v =>
    (StreamRequest.read .caller v).map fun b => .createStream b.name b.topic b.row
  | .updateStream => some <| .body fun v =>
    (StreamUpdate.read .caller v).map fun b => .updateStream name b.topic b.row
  | .listStreams => some (.path .listStreams)
  | .viewStream => some (.path (.viewStream name))
  | .deleteStream => some (.path (.deleteStream name))
  | .createRule => some <| .body fun v => (Rule.readRequest .caller v).map .createRule
  | .page _ | .health | .info => none

/-- The value that a body is read as. One that is not announced as JSON is a text. -/
inductive Body.Content.Stands : Body.Content → Json → Prop where
  | json (v : Json) : Stands (.json v) v
  | raw {bytes s} (h : Body.rawText bytes = .ok s) : Stands (.raw bytes) (.str s)

namespace Body

section Read

variable {α : Type} {reader : Json → Reading α} {content : Content} {v : Json}

theorem read_of_ok {a : α} (hv : content.Stands v) (hr : reader v = .ok a) :
    read reader content = .ok (.ok a) := by
  cases hv with
  | json => simp only [read, hr]
  | raw hb => simp only [read, hb, hr]

theorem read_of_problems {problems : List Problem} (hv : content.Stands v)
    (hr : reader v = .error problems) :
    read reader content = (problemsAnswer problems).map .error := by
  cases hv with
  | json => simp only [read, hr]
  | raw hb => simp only [read, hb, hr]

theorem read_map {β : Type} (reader : Json → Reading α) (next : α → β) (content : Content) :
    read (fun v => (reader v).map next) content =
      (read reader content).map (Except.map next) := by
  have hread : ∀ {v}, content.Stands v → read (fun v => (reader v).map next) content =
      (read reader content).map (Except.map next) := by
    intro v hv
    cases hr : reader v with
    | ok a => rw [read_of_ok hv hr, read_of_ok hv (congrArg (Reading.map next) hr)]; rfl
    | error problems =>
      rw [read_of_problems hv hr, read_of_problems hv (congrArg (Reading.map next) hr)]
      cases problemsAnswer problems <;> rfl
  cases content with
  | absent =>
    simp only [read]
    cases problemsAnswer _ <;> rfl
  | json v => exact hread (.json v)
  | raw bytes =>
    cases hb : rawText bytes with
    | ok s => exact hread (.raw hb)
    | error f => simp only [read, hb]; rfl

end Read

section Report

variable {problems : List Problem}

end Report

end Body

namespace Intake

section

variable (r : Request)

inductive Unparsed : Intake → Prop where
  | body {read e} (hp : Body.parse r = .error e) : Unparsed (.body read)

/-- The body is not announced as JSON, and it is no text. -/
inductive Illegible : Intake → Prop where
  | body {read bytes f} (hp : Body.parse r = .ok (.raw bytes))
      (hf : Body.rawText bytes = .error f) : Illegible (.body read)

inductive Refuses : List Problem → Intake → Prop where
  | absent {read} (hp : Body.parse r = .ok .absent) :
      Refuses [⟨.missing, [], .null⟩] (.body read)
  | body {read content v problems} (hp : Body.parse r = .ok content) (hv : content.Stands v)
      (hr : read v = .error problems) : Refuses problems (.body read)

inductive Asks : Task → Intake → Prop where
  | path (task : Task) : Asks task (.path task)
  | body {read content v task} (hp : Body.parse r = .ok content) (hv : content.Stands v)
      (hr : read v = .ok task) : Asks task (.body read)

end

variable {r : Request} {i : Intake}

section Map

variable {α : Type} {reader : Json → Reading α} {next : α → Task} {content : Body.Content}
  {v : Json} (hp : Body.parse r = .ok content) (hv : content.Stands v)
include hp hv

theorem asks_map {a : α} (hr : reader v = .ok a) :
    Asks r (next a) (.body fun v => (reader v).map next) :=
  .body hp hv (congrArg (Reading.map next) hr)

end Map

theorem cases (r : Request) (i : Intake) :
    i.Unparsed r ∨ i.Illegible r ∨ (∃ problems, i.Refuses r problems) ∨ ∃ task, i.Asks r task := by
  cases i with
  | path task => exact .inr (.inr (.inr ⟨task, .path task⟩))
  | body read =>
    have hread : ∀ {content v}, Body.parse r = .ok content → content.Stands v →
        (∃ problems, Refuses r problems (.body read)) ∨ ∃ task, Asks r task (.body read) := by
      intro content v hp hv
      cases hr : read v with
      | ok task => exact .inr ⟨task, .body hp hv hr⟩
      | error problems => exact .inl ⟨problems, .body hp hv hr⟩
    cases hp : Body.parse r with
    | error e => exact .inl (.body hp)
    | ok content =>
      cases content with
      | absent => exact .inr (.inr (.inl ⟨_, .absent hp⟩))
      | json v => exact .inr (.inr (hread hp (.json v)))
      | raw bytes =>
        cases hb : Body.rawText bytes with
        | error f => exact .inr (.inl (.body hp hb))
        | ok s => exact .inr (.inr (hread hp (.raw hb)))

def demand (r : Request) : Intake → Except Fault Demand
  | .path task => Demand.withToken r fun token => .ok (.task token task)
  | .body read => Demand.withBody r read id

theorem withBody_map {α : Type} (r : Request) (reader : Json → Reading α) (next : α → Task) :
    Demand.withBody r reader next = Demand.withBody r (fun v => (reader v).map next) id := by
  have hread := Body.read_map reader next
  unfold Demand.withBody Demand.withToken
  cases Body.parse r with
  | error e => rfl
  | ok content =>
    cases bearer? r with
    | none => rfl
    | some token =>
      simp only [hread]
      cases Body.read reader content with
      | error f => rfl
      | ok result => cases result <;> rfl

theorem ofOperation_of_intake (settings : Settings) (r : Request) {name : String} {op : Operation}
    (h : op.intake? name = some i) : Demand.ofOperation settings r name op = i.demand r := by
  cases op <;> cases h <;> first | rfl | exact withBody_map ..

theorem demand_of_unparsed (h : i.Unparsed r) :
    ∃ a, i.demand r = .ok (.settled a) ∧ (a.status = 400 ∨ a.status = 422) := by
  cases h with
  | @body read e hp =>
    refine ⟨Body.unparsedAnswer e, by simp [demand, Demand.withBody, hp], ?_⟩
    cases e with
    | unreadable => exact .inl rfl
    | grammar f => exact .inr rfl

theorem demand_of_anonymous (h : ¬ i.Unparsed r) (hb : bearer? r = none) :
    i.demand r = .ok (.settled (.unauthorized "Missing authorization token")) := by
  cases i with
  | path task => simp [demand, Demand.withToken, hb]
  | body read =>
    cases hp : Body.parse r with
    | error e => exact absurd (.body hp) h
    | ok content => simp [demand, Demand.withBody, Demand.withToken, hp, hb]

section Known

variable {token : String} (hb : bearer? r = some token)
include hb

theorem demand_body {read : Json → Reading Task} {content : Body.Content}
    (hp : Body.parse r = .ok content) :
    (Intake.body read).demand r =
      (Body.read read content).map fun
        | .error answer => .settled answer
        | .ok task => .task token task := by
  simp only [demand, Demand.withBody, Demand.withToken, hp, hb]
  cases Body.read read content with
  | error f => rfl
  | ok result => cases result <;> rfl

theorem demand_of_asked {task : Task} (h : i.Asks r task) :
    i.demand r = .ok (.task token task) := by
  cases h with
  | path => simp only [demand, Demand.withToken, hb]
  | body hp hv hr =>
    rw [demand_body hb hp, Body.read_of_ok hv hr]
    rfl

theorem demand_of_refused {problems : List Problem} (h : i.Refuses r problems) :
    i.demand r = (Body.problemsAnswer problems).map .settled := by
  cases h with
  | absent hp =>
    rw [demand_body hb hp, Body.read]
    cases Body.problemsAnswer _ <;> rfl
  | body hp hv hr =>
    rw [demand_body hb hp, Body.read_of_problems hv hr]
    cases Body.problemsAnswer _ <;> rfl

theorem demand_of_illegible (h : i.Illegible r) :
    ∃ f, i.demand r = .error f ∧ ¬ f.IsRefusal := by
  cases h with
  | @body read bytes f hp hf =>
    refine ⟨f, by simp only [demand_body hb hp, Body.read, hf]; rfl, ?_⟩
    unfold Body.rawText at hf
    split at hf
    · cases hf
    · cases hf
      rintro ⟨reason, cause, ⟨⟩⟩

end Known

theorem demand_eq_task_iff {token : String} {task : Task} :
    i.demand r = .ok (.task token task) ↔ bearer? r = some token ∧ i.Asks r task := by
  constructor
  · intro h
    by_cases hu : i.Unparsed r
    · obtain ⟨a, ha, -⟩ := demand_of_unparsed hu
      rw [ha] at h
      cases h
    cases hb : bearer? r with
    | none =>
      rw [demand_of_anonymous hu hb] at h
      cases h
    | some known =>
      rcases i.cases r with hp | hl | ⟨problems, hp⟩ | ⟨asked, ha⟩
      · exact absurd hp hu
      · obtain ⟨f, hf, -⟩ := demand_of_illegible hb hl
        rw [hf] at h
        cases h
      · rw [demand_of_refused hb hp] at h
        cases hanswer : Body.problemsAnswer problems <;> rw [hanswer] at h <;> cases h
      · rw [demand_of_asked hb ha] at h
        cases h
        exact ⟨rfl, ha⟩
  · rintro ⟨hb, ha⟩
    exact demand_of_asked hb ha

end Intake

/-- The requests that come to a task are those for an operation that takes one. -/
theorem Demand.ofRequest_eq_task_iff {settings : Settings} {r : Request} {token : String}
    {task : Task} :
    Demand.ofRequest settings r = .ok (.task token task) ↔
      ∃ op name i, destination (routes settings.root) r.method r.path = .operation op name ∧
        op.intake? name = some i ∧ bearer? r = some token ∧ i.Asks r task := by
  unfold Demand.ofRequest
  cases destination (routes settings.root) r.method r.path with
  | operation op name =>
    cases hi : op.intake? name with
    | none => cases op <;> cases hi <;> simp [Demand.ofOperation, Operation.intake?]
    | some i =>
      simp only [Intake.ofOperation_of_intake settings r hi, Intake.demand_eq_task_iff]
      constructor
      · intro h
        exact ⟨op, name, i, rfl, hi, h⟩
      · rintro ⟨_, _, _, ⟨⟩, hj, h⟩
        cases hi.symm.trans hj
        exact h
  | otherMethod | elsewhere | nowhere => simp

def Operation.method : Operation → String
  | .page _ | .health | .info | .listStreams | .viewStream => "GET"
  | .createStream | .createRule => "POST"
  | .updateStream => "PUT"
  | .deleteStream => "DELETE"

theorem Route.method_of_mem {root : String} {route : Route} (h : route ∈ routes root) :
    route.method = route.operation.method := by
  simp only [routes, pages, operations, List.cons_append, List.nil_append, List.mem_cons,
    List.not_mem_nil, or_false] at h
  rcases h with rfl | rfl | rfl | rfl | rfl | rfl | rfl | rfl | rfl | rfl | rfl | rfl <;> rfl

theorem exists_route_of_destination {table : List Route} {method path name : String}
    {op : Operation} (h : destination table method path = .operation op name) :
    ∃ route ∈ table, route.method = method ∧ route.operation = op ∧
      route.name? path = some name := by
  unfold destination at h
  dsimp only at h
  split at h
  · next route found hf =>
    cases h
    have hm := List.mem_of_find?_eq_some hf
    obtain ⟨other, ho, hn⟩ := List.mem_filterMap.mp hm
    obtain ⟨_, hname, he⟩ := Option.map_eq_some_iff.mp hn
    cases he
    exact ⟨_, ho, by simpa using List.find?_some hf, rfl, hname⟩
  · split at h
    · cases h
    · split at h <;> cases h

theorem method_of_destination {root method path name : String} {op : Operation}
    (h : destination (routes root) method path = .operation op name) : method = op.method := by
  obtain ⟨route, hr, rfl, rfl, -⟩ := exists_route_of_destination h
  exact Route.method_of_mem hr

theorem Intake.exists_of_asks_map {α : Type} {reader : Json → Reading α} {next : α → Task}
    {r : Request} {task : Task} (h : Asks r task (.body fun v => (reader v).map next)) :
    ∃ a, task = next a := by
  cases h with
  | body _ _ hr =>
    obtain ⟨a, -, rfl⟩ := Reading.map_eq_ok_iff.mp hr
    exact ⟨a, rfl⟩

theorem successStatus_of_asks {name : String} {op : Operation} {i : Intake} {r : Request}
    {task : Task} (hi : op.intake? name = some i) (h : i.Asks r task) :
    successStatus task = if op.method = "POST" then 201 else 200 := by
  cases op <;> cases hi
  case createStream | updateStream | createRule =>
    obtain ⟨a, rfl⟩ := Intake.exists_of_asks_map h
    rfl
  case listStreams | viewStream | deleteStream =>
    cases h
    rfl

end TenantGateway.Http
