import TenantGateway.Proofs.Intake
import TenantGateway.Proofs.Writing

/-! # Serving

Requests over HTTP come to operations and nothing else. What is wrong with a request is settled
before any other service is asked; then the operation is carried out, and its outcome is put into
the answer.
-/
namespace TenantGateway.Json

mutual

theorem finiteOrNull_of_allFinite : ∀ {v : Json}, v.allFinite = true → v.finiteOrNull = v
  | .null, _ | .bool _, _ | .int _, _ | .str _, _ => rfl
  | .number _, h => if_pos h
  | .arr _, h => congrArg Json.arr (finiteOrNullItems_of_allFinite h)
  | .obj _, h => congrArg Json.obj (finiteOrNullFields_of_allFinite h)

theorem finiteOrNullItems_of_allFinite :
    ∀ {items : List Json}, allFiniteItems items = true → finiteOrNullItems items = items
  | [], _ => rfl
  | _ :: _, h => by
    obtain ⟨hv, hrest⟩ := Bool.and_eq_true_iff.mp h
    rw [finiteOrNullItems, finiteOrNull_of_allFinite hv, finiteOrNullItems_of_allFinite hrest]

theorem finiteOrNullFields_of_allFinite :
    ∀ {fields : Fields}, allFiniteFields fields = true → finiteOrNullFields fields = fields
  | [], _ => rfl
  | (_, _) :: _, h => by
    obtain ⟨hv, hrest⟩ := Bool.and_eq_true_iff.mp h
    rw [finiteOrNullFields, finiteOrNull_of_allFinite hv, finiteOrNullFields_of_allFinite hrest]

end

theorem allFiniteItems_iff {items : List Json} :
    allFiniteItems items = true ↔ ∀ v ∈ items, v.allFinite = true := by
  induction items with
  | nil => simp [allFiniteItems]
  | cons v rest ih => simp [allFiniteItems, ih]

theorem allFiniteFields_iff {fields : Fields} :
    allFiniteFields fields = true ↔ ∀ field ∈ fields, field.2.allFinite = true := by
  induction fields with
  | nil => simp [allFiniteFields]
  | cons field rest ih => simp [allFiniteFields, ih]

end TenantGateway.Json

namespace TenantGateway

def Product.toJson : Product → Json
  | .result text => ResultAnswer.toJson ⟨text⟩
  | .names all => StreamsAnswer.toJson ⟨all⟩
  | .stream s => s.toJson

/-- All numbers of a product are finite, and nothing in it is too high to be shown. -/
def Product.Showable : Product → Prop
  | .stream s => ∀ v ∈ s.freeValues, v.allFinite ∧ v.height ≤ Http.heightLimit
  | _ => True

theorem Stream.allFinite_toJson {stream : Stream} (h : ∀ v ∈ stream.freeValues, v.allFinite) :
    stream.toJson.allFinite = true := by
  have hfields : ∀ f ∈ stream.fields, f.toJson.allFinite = true := by
    intro f hf
    have hv := h f.fieldType (List.mem_append_right _ (List.mem_map_of_mem hf))
    simp [StreamField.toJson, Json.allFinite, Json.allFiniteFields, hv]
  have hoptions : ∀ option ∈ stream.options, option.2.allFinite = true := fun option ho =>
    h option.2 (List.mem_append_left _ (List.mem_map_of_mem ho))
  simp only [toJson, Json.allFinite, Json.allFiniteFields, Json.allFiniteItems_iff,
    Json.allFiniteFields_iff, List.forall_mem_map, Bool.and_eq_true, true_and, and_true]
  exact ⟨hfields, hoptions⟩

theorem Product.shown_of_showable {product : Product} (h : product.Showable) :
    Http.shown product = .ok product.toJson := by
  cases product with
  | result text => rfl
  | names all => rfl
  | stream s =>
    have hall : (s.freeValues.all fun v => v.height ≤ Http.heightLimit) = true := by
      rw [List.all_eq_true]
      exact fun v hv => decide_eq_true (h v hv).2
    rw [Http.shown, if_pos hall,
      Json.finiteOrNull_of_allFinite (Stream.allFinite_toJson fun v hv => (h v hv).1)]
    rfl

theorem Http.shown_of_tooHigh {stream : Stream} {v : Json} (hv : v ∈ stream.freeValues)
    (hh : heightLimit < v.height) : shown (.stream stream) = .error .tooTall := by
  refine if_neg fun hall => ?_
  have hle := of_decide_eq_true (List.all_eq_true.mp hall v hv)
  omega

end TenantGateway

namespace TenantGateway.Http

open Schema

section Share

variable (origins : List String) (origin : Option String) (a : Answer)

theorem Cors.status_share : (share origins origin a).status = a.status := by
  cases origin <;> rfl

theorem Cors.content_share : (share origins origin a).content = a.content := by
  cases origin <;> rfl

theorem Cors.challenge_mem_share_iff :
    ("www-authenticate", "Bearer") ∈ (share origins origin a).headers ↔
      ("www-authenticate", "Bearer") ∈ a.headers := by
  cases origin with
  | none => simp [share, Answer.withHeaders]
  | some o =>
    simp only [share, Answer.withHeaders, allowOrigin]
    split <;> simp

end Share

def statuses : List (ErrorFamily × Nat) :=
  [(.notFound, 404), (.malformed, 400), (.unauthorized, 401), (.engine, 500)]

theorem status_eq_find? (family : ErrorFamily) :
    family.status =
      ((statuses.find? fun entry => entry.1 ∈ family.lineage).map (·.2)).getD 500 := by
  cases family <;> rfl

theorem status_refusalAnswer (family : ErrorFamily) (text : String) :
    (refusalAnswer family text).status = family.status := by
  cases family <;> rfl

theorem content_refusalAnswer (family : ErrorFamily) (text : String) :
    (refusalAnswer family text).content = .json (.obj [("detail", .str text)]) := by
  cases family <;> rfl

theorem challenge_mem_refusalAnswer_iff {family : ErrorFamily} {text : String} :
    ("www-authenticate", "Bearer") ∈ (refusalAnswer family text).headers ↔
      family = .unauthorized := by
  cases family <;>
    simp [refusalAnswer, ErrorFamily.status, Answer.unauthorized, Answer.detail, Answer.ofJson,
      Answer.withHeaders]

/-- No half of a surrogate pair stands alone in what is read of a request. -/
def Intake.Paired (r : Request) : Intake → Prop
  | .path _ => True
  | .body _ => r.Paired

namespace Gateway

variable {κ : Type} {settings : Settings} {s : Services κ} {r : Request}

/-- A failure that nobody handled is told of without what it was. -/
structure Fails (served : Served κ) (f : Fault) : Prop where
  escaped : served.escaped = some f
  answer : served.answer = .plain 500 "Internal Server Error"

/-- What is promised of an operation, whatever it returns. -/
structure Carries (run : Run κ Product) (served : Served κ) : Prop where
  calls : served.calls = run.calls
  refused : ∀ reason cause, run.outcome = .error (.refusal reason cause) →
    served.escaped = none ∧ served.answer.status = reason.family.status ∧
      served.answer.content =
        .json (.obj [("detail", .str (Fault.refusal reason cause).message)]) ∧
      (("www-authenticate", "Bearer") ∈ served.answer.headers ↔ reason.family = .unauthorized)
  failed : ∀ f, run.outcome = .error f → ¬ f.IsRefusal → Fails served f

/-- What is promised of an operation that is carried out for a request. -/
structure Mirrors (method : String) (run : Run κ Product) (served : Served κ) : Prop
    extends Carries run served where
  returned : ∀ product, run.outcome = .ok product → product.Showable →
    served.escaped = none ∧ served.answer.status = (if method = "POST" then 201 else 200) ∧
      served.answer.content = .json product.toJson
  tooHigh : ∀ stream, run.outcome = .ok (.stream stream) →
    (∃ v ∈ stream.freeValues, heightLimit < v.height) → Fails served .tooTall

/-- What is promised of a request for an operation on behalf of a caller. Where half of a surrogate
pair stands alone, in the request or in an answer of the engine, what is read is not what is
written, and of what depends on it nothing is promised. -/
structure Faithful (settings : Settings) (s : Services κ) (r : Request) (i : Intake)
    (served : Served κ) : Prop where
  covered : i.Unparsed r ∨ i.Illegible r ∨ (∃ problems, i.Refuses r problems) ∨
    ∃ task, i.Asks r task
  written : r.Paired → ∀ v text, Body.parse r = .ok (.json v) → v.HasText text → r.Writes text
  unparsed : i.Unparsed r → served.calls = [] ∧ served.escaped = none ∧
    (served.answer.status = 400 ∨ served.answer.status = 422)
  anonymous : ¬ i.Unparsed r → bearer? r = none → served.calls = [] ∧ served.escaped = none ∧
    served.answer.status = 401 ∧ ("www-authenticate", "Bearer") ∈ served.answer.headers
  refused : i.Paired r → ∀ token problems, bearer? r = some token → i.Refuses r problems →
    (∀ p ∈ problems, p.input.allFinite) → served.calls = [] ∧ served.escaped = none ∧
      served.answer.status = 422 ∧
      served.answer.content =
        .json (.obj [("detail", .arr (problems.map Body.problemJson))])
  /-- A number that is not finite cannot be reported. -/
  unreportable : ∀ token problems, bearer? r = some token → i.Refuses r problems →
    (¬ ∀ p ∈ problems, p.input.allFinite) → served.calls = [] ∧ ∃ f, Fails served f
  illegible : ∀ token, bearer? r = some token → i.Illegible r →
    served.calls = [] ∧ ∃ f, Fails served f
  asked : i.Paired r → ∀ token task, bearer? r = some token → i.Asks r task →
    Carries (s.perform settings token task) served ∧
      (s.AnswersPaired → Mirrors r.method (s.perform settings token task) served)

section Demand

variable {run : Run κ Answer}

theorem preflight?_of_method (h : r.method ≠ "OPTIONS") : Cors.preflight? r = none := if_neg h

variable (hm : r.method ≠ "OPTIONS") (hr : respond settings s r = run)
include hm hr

theorem calls_serve : (serve settings s r).calls = run.calls := by
  simp only [serve, preflight?_of_method hm, hr]
  split <;> rfl

theorem serve_of_answer {a : Answer} (ho : run.outcome = .ok a) :
    serve settings s r = ⟨run.calls, Cors.share settings.origins (r.header? "origin") a, none⟩ := by
  simp only [serve, preflight?_of_method hm, hr, ho]

theorem serve_of_refusal {reason : Refusal} {cause : Option Fault}
    (ho : run.outcome = .error (.refusal reason cause)) :
    serve settings s r = ⟨run.calls, Cors.share settings.origins (r.header? "origin")
      (refusalAnswer reason.family (Fault.refusal reason cause).message), none⟩ := by
  simp only [serve, preflight?_of_method hm, hr, ho]

theorem serve_of_failure {f : Fault} (ho : run.outcome = .error f) (hf : ¬ f.IsRefusal) :
    serve settings s r = ⟨run.calls, .plain 500 "Internal Server Error", some f⟩ := by
  simp only [serve, preflight?_of_method hm, hr, ho]
  cases f with
  | refusal reason cause => exact absurd ⟨reason, cause, rfl⟩ hf
  | _ => rfl

end Demand

theorem fulfil_task (token : String) (task : Task) :
    fulfil settings s (.task token task) =
      ⟨(s.perform settings token task).calls,
        (s.perform settings token task).outcome >>= fun product =>
          (shown product).map (Answer.ofJson (successStatus task))⟩ := by
  have hnext : ∀ product,
      (do let v ← Run.ofOutcome (shown product)
          return Answer.ofJson (successStatus task) v : Run κ Answer) =
        Run.ofOutcome ((shown product).map (Answer.ofJson (successStatus task))) := by
    intro product
    rw [bind_pure_comp, Run.map_ofOutcome]
  simp only [fulfil, hnext]
  exact Run.ext (Run.calls_bind_ofOutcome _ _) (Run.outcome_bind _ _)

section Intake

variable {op : Operation} {name : String} {i : Intake}
  (hd : destination (routes settings.root) r.method r.path = .operation op name)
  (hi : op.intake? name = some i)
include hd hi

theorem respond_of_intake :
    respond settings s r = Run.ofOutcome (i.demand r) >>= fulfil settings s := by
  have hq : Demand.ofRequest settings r = i.demand r := by
    simp only [Demand.ofRequest, hd]
    exact Intake.ofOperation_of_intake settings r hi
  rw [respond, hq]

theorem respond_of_demand {d : Demand} (h : i.demand r = .ok d) :
    respond settings s r = fulfil settings s d := by
  rw [respond_of_intake hd hi, h, Run.ofOutcome_ok, pure_bind]

theorem method_ne_options : r.method ≠ "OPTIONS" := by
  rw [method_of_destination hd]
  cases op <;> cases hi <;> decide

theorem carries_perform {token : String} {task : Task} (h : i.demand r = .ok (.task token task)) :
    Carries (s.perform settings token task) (serve settings s r) := by
  have hm := method_ne_options hd hi
  have hr := (respond_of_demand (s := s) hd hi h).trans (fulfil_task token task)
  constructor
  · exact calls_serve hm hr
  · intro reason cause ho
    rw [serve_of_refusal hm hr (Except.bind_eq_error_iff.mpr (.inl ho)), Cors.status_share,
      Cors.content_share, Cors.challenge_mem_share_iff, status_refusalAnswer,
      content_refusalAnswer, challenge_mem_refusalAnswer_iff]
    exact ⟨rfl, rfl, rfl, Iff.rfl⟩
  · intro f ho hf
    rw [serve_of_failure hm hr (Except.bind_eq_error_iff.mpr (.inl ho)) hf]
    exact ⟨rfl, rfl⟩

theorem mirrors_perform {token : String} {task : Task} (h : i.demand r = .ok (.task token task))
    (ha : i.Asks r task) :
    Mirrors r.method (s.perform settings token task) (serve settings s r) := by
  have hm := method_ne_options hd hi
  have hr := (respond_of_demand (s := s) hd hi h).trans (fulfil_task token task)
  refine ⟨carries_perform hd hi h, ?_, ?_⟩
  · intro product ho hp
    have hanswer : ((s.perform settings token task).outcome >>= fun product =>
        (shown product).map (Answer.ofJson (successStatus task))) =
          .ok (.ofJson (successStatus task) product.toJson) := by
      rw [ho]
      exact congrArg (Except.map _) (Product.shown_of_showable hp)
    rw [serve_of_answer hm hr hanswer, Cors.status_share, Cors.content_share,
      method_of_destination hd, ← successStatus_of_asks hi ha]
    exact ⟨rfl, rfl, rfl⟩
  · rintro stream ho ⟨v, hv, hh⟩
    have hfault : ((s.perform settings token task).outcome >>= fun product =>
        (shown product).map (Answer.ofJson (successStatus task))) = .error .tooTall := by
      rw [ho]
      exact congrArg (Except.map _) (shown_of_tooHigh hv hh)
    rw [serve_of_failure hm hr hfault (by rintro ⟨_, _, ⟨⟩⟩)]
    exact ⟨rfl, rfl⟩

end Intake

theorem mirrors_of_task (s : Services κ) {token : String} {task : Task}
    (h : Demand.ofRequest settings r = .ok (.task token task)) :
    Mirrors r.method (s.perform settings token task) (serve settings s r) := by
  obtain ⟨op, name, i, hd, hi, hb, ha⟩ := Demand.ofRequest_eq_task_iff.mp h
  exact mirrors_perform hd hi (Intake.demand_of_asked hb ha) ha

namespace Arrivals

def failure : Response := ⟨500, "", .ok [0x6E, 0x6F]⟩

def services (answer : Response) : Services Question :=
  Behaviour.services ⟨fun _ => .ok ⟨"a-b", none⟩, fun _ _ => .ok (.obj []), fun _ => .ok answer⟩

def deletion : Request :=
  ⟨"DELETE", "/api/rules-engine/streams/x", [("authorization", "BEARER t")], []⟩

/-- The octets of `{"name":NaN,"topic":"t","row":"r"}`. -/
def body : Text.Bytes :=
  [0x7B, 0x22, 0x6E, 0x61, 0x6D, 0x65, 0x22, 0x3A, 0x4E, 0x61, 0x4E, 0x2C, 0x22, 0x74, 0x6F, 0x70,
    0x69, 0x63, 0x22, 0x3A, 0x22, 0x74, 0x22, 0x2C, 0x22, 0x72, 0x6F, 0x77, 0x22, 0x3A, 0x22, 0x72,
    0x22, 0x7D]

def creation : Request :=
  ⟨"POST", "/api/rules-engine/streams",
    [("authorization", "Bearer t"), ("content-type", "application/json")], body⟩

end Arrivals

end Gateway

end TenantGateway.Http
