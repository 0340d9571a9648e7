import TenantGateway.Proofs.Containment
import TenantGateway.Proofs.Form

/-! # Reports of changes

What a caller is told of a change at the engine. The report of a success is given for the one status
of success and for no other. The report of a failure has the status and the text of the engine's
answer in it, and both are read back from it.
-/
namespace TenantGateway

open Text

/-- A task that changes something at the engine: what reports call it, and the status of its
success. -/
inductive Task.Changes : Task → (action : String) → (expected : Int) → Prop where
  | createStream (name topic row : String) :
      Changes (.createStream name topic row) "Create stream" 201
  | updateStream (name topic row : String) :
      Changes (.updateStream name topic row) "Update stream" 200
  | deleteStream (name : String) : Changes (.deleteStream name) "Delete stream" 200
  | createRule (rule : Rule) : Changes (.createRule rule) "Create rule" 201

namespace Report

def success (action : String) : String := action ++ " successful."

def failure (action : String) (status : Int) (reason : String) : String :=
  action ++ " failed. Kuiper http status: " ++ toString status ++ ". " ++ reason

variable {action : String} {status : Int} {reason : String}

/-- Where the status stands in the report of a failure: up to the first stop after it. -/
def statusHole (action : String) : Hole :=
  ⟨(action ++ " failed. Kuiper http status: ").toList, [], '.', List.not_mem_nil⟩

def read? (action text : String) : Option (Int × String) :=
  ((statusHole action).read? text.toList).bind fun (digits, rest) =>
    match rest with
    | ' ' :: reason =>
      (String.ofList digits).toInt?.map fun status => (status, String.ofList reason)
    | _ => none

theorem toList_failure : (failure action status reason).toList =
    (statusHole action).fill (toString status).toList (' ' :: reason.toList) := by
  simp [failure, statusHole, Hole.fill]

theorem isDigit_of_mem_repr {n : Nat} {c : Char} (h : c ∈ n.repr.toList) : c.isDigit = true := by
  rw [Nat.repr_eq_ofList_toDigits, String.toList_ofList] at h
  exact Nat.isDigit_of_mem_toDigits (by decide) (by decide) h

theorem ne_of_isDigit {c d : Char} (h : c.isDigit = true) (hd : d.isDigit = false) : c ≠ d := by
  rintro rfl
  exact absurd (hd.symm.trans h) (by decide)

/-- Over digits the loop of `String.Slice.isNat` never leaves early. -/
theorem isNat_loop {cs : List Char} (h : ∀ c ∈ cs, c.isDigit = true) (last : Bool) :
    (forIn (m := Id) cs ((none : Option Bool), last) fun c st =>
      if c = '_' then
        if (!st.2) = true then pure (ForInStep.done (some false, st.2))
        else pure (ForInStep.yield (none, false))
      else if c.isDigit = true then pure (ForInStep.yield (none, true))
      else pure (ForInStep.done (some false, st.2))).run = (none, last || !cs.isEmpty) := by
  induction cs generalizing last with
  | nil => simp
  | cons c rest ih =>
    rw [List.forall_mem_cons] at h
    rw [List.forIn_cons, if_neg (ne_of_isDigit h.1 (by decide)), if_pos h.1, pure_bind, ih h.2]
    simp

theorem isNat_of_copy {n : Nat} {s : String.Slice} (h : s.copy = n.repr) : s.isNat = true := by
  simp only [String.Slice.isNat, String.Slice.forIn_eq_forIn_toList, h, Id.run_bind,
    isNat_loop fun c hc => isDigit_of_mem_repr hc]
  simp

theorem toNat?_of_copy {n : Nat} {s : String.Slice} (h : s.copy = n.repr) : s.toNat? = some n := by
  rw [String.Slice.toNat?, if_pos (isNat_of_copy h), String.Slice.foldl_eq_foldl_toList, h]
  congr 1
  calc n.repr.toList.foldl (fun k c => if c = '_' then k else k * 10 + (c.toNat - '0'.toNat)) 0
      = n.repr.toList.foldl (fun k c => 10 * k + (c.toNat - '0'.toNat)) 0 :=
        List.foldl_ext _ _ _ fun k c hc => by
          rw [if_neg (ne_of_isDigit (isDigit_of_mem_repr hc) (by decide)), Nat.mul_comm]
    _ = Nat.ofDigitChars 10 n.repr.toList 0 := Nat.ofDigitChars_eq_foldl.symm
    _ = n := by rw [Nat.toList_repr, Nat.ofDigitChars_toDigits (by decide) (by decide)]

theorem toInt?_of_nat (n : Nat) : n.repr.toInt? = some (n : Int) := by
  have hstart : n.repr.toSlice.dropPrefix? '-' = none := by
    rw [String.Slice.dropPrefix?_eq_none_iff,
      String.Slice.startsWith_char_eq_false_iff_forall_append]
    intro rest h
    have hm : '-' ∈ n.repr.toList := by
      rw [← String.copy_toSlice (s := n.repr), h]
      simp
    exact absurd (isDigit_of_mem_repr hm) (by decide)
  rw [String.toInt?, String.Slice.toInt?, hstart]
  simp [toNat?_of_copy String.copy_toSlice]

theorem toInt?_of_minus (n : Nat) : ("-" ++ n.repr).toInt? = some (-(n : Int)) := by
  cases hm : ("-" ++ n.repr).toSlice.dropPrefix? '-' with
  | none =>
    rw [String.Slice.dropPrefix?_eq_none_iff,
      String.Slice.startsWith_char_eq_false_iff_forall_append] at hm
    exact absurd String.copy_toSlice (hm n.repr)
  | some rest =>
    have hrest : rest.copy = n.repr := by
      have h := String.Slice.eq_append_of_dropPrefix?_char_eq_some hm
      rw [String.copy_toSlice] at h
      exact (String.append_right_inj _).mp h.symm
    rw [String.toInt?, String.Slice.toInt?, hm]
    simp [toNat?_of_copy hrest, Int.negOfNat_eq]

/-- A status is read back from its decimal text. -/
theorem toInt?_toString (status : Int) : (toString status).toInt? = some status := by
  rw [Int.toString_eq_repr, Int.repr_eq_if]
  split
  · rw [toInt?_of_nat]
    congr 1
    omega
  · rw [toInt?_of_minus]
    congr 1
    omega

theorem stop_notMem_status (status : Int) : '.' ∉ (toString status).toList := by
  have hdigits : ∀ n : Nat, '.' ∉ n.repr.toList := fun n hm =>
    absurd (isDigit_of_mem_repr hm) (by decide)
  rw [Int.toString_eq_repr, Int.repr_eq_if]
  split
  · exact hdigits _
  · rw [String.toList_append, List.mem_append]
    rintro (hm | hm)
    · exact absurd hm (by decide)
    · exact hdigits _ hm

theorem read?_failure : read? action (failure action status reason) = some (status, reason) := by
  have hs : (statusHole action).read? (failure action status reason).toList =
      some ((toString status).toList, ' ' :: reason.toList) := by
    rw [toList_failure]
    exact Hole.read?_fill (stop_notMem_status status) _
  simp only [read?, hs, Option.bind_some, String.ofList_toList, toInt?_toString,
    Option.map_some]

theorem failure_inj {other : Int} {text : String} :
    failure action status reason = failure action other text ↔ status = other ∧ reason = text := by
  constructor
  · intro h
    have hr : read? action (failure action status reason) = some (status, reason) := read?_failure
    rw [h, read?_failure] at hr
    cases hr
    exact ⟨rfl, rfl⟩
  · rintro ⟨rfl, rfl⟩
    rfl

theorem failure_ne_success {task deed : Task} {act : String} {expected wanted : Int}
    (h : task.Changes action expected) (hd : deed.Changes act wanted) :
    failure action status reason ≠ success act := by
  intro he
  -- Both start with an action, and differ in the word after it.
  have hp : (statusHole action).lead <+: (success act).toList := by
    rw [← he, toList_failure]
    exact List.prefix_append ..
  cases h <;> cases hd <;> exact absurd hp (by decide)

end Report

/-- What a change comes to, by the engine's answer to it. -/
structure Report.Faithful (action : String) (expected : Int) (answer : Response)
    (outcome : Except Fault Product) : Prop where
  success : outcome = .ok (.result (Report.success action)) ↔ answer.status = expected
  failure : ∀ reason, answer.status ≠ expected → answer.text = .ok reason →
    ∃ text, outcome = .ok (.result text) ∧
      (∀ (deed : Task) act wanted, deed.Changes act wanted → text ≠ Report.success act) ∧
      Report.read? action text = some (answer.status, reason)
  unreadable : ∀ f, answer.status ≠ expected → answer.text = .error f → f.IsReading →
    ∃ reason, outcome = .error (.refusal reason (some f)) ∧ reason.family = .engine

section Changes

variable {task : Task} {action : String} {expected : Int} {answer : Response}

theorem Task.Changes.conclude (h : task.Changes action expected) (settings : Settings)
    (user : String) : (task.plan settings user).conclude answer =
      (report action expected answer).map .result := by
  cases h <;> rfl

theorem report_of_text {reason : String} (hs : answer.status ≠ expected)
    (ht : answer.text = .ok reason) :
    report action expected answer = .ok (Report.failure action answer.status reason) := by
  rw [report, if_neg hs, ht]
  rfl

/-- A body is not read for a success, so it does not matter what would come of that. -/
theorem report_eq_success_iff (h : task.Changes action expected) :
    report action expected answer = .ok (Report.success action) ↔ answer.status = expected := by
  by_cases hs : answer.status = expected
  · rw [report, if_pos hs]
    exact iff_of_true rfl hs
  · refine iff_of_false ?_ hs
    intro he
    cases ht : answer.text with
    | ok reason =>
      rw [report_of_text hs ht] at he
      exact Report.failure_ne_success h h (Except.ok.inj he)
    | error f =>
      by_cases hf : f.IsReading
      · cases (report_of_reading hs ht hf).symm.trans he
      · cases (report_of_not_reading hs ht hf).symm.trans he

theorem faithful_report (h : task.Changes action expected) :
    Report.Faithful action expected answer ((report action expected answer).map .result) := by
  constructor
  · rw [← report_eq_success_iff h]
    cases report action expected answer <;> simp [Except.map]
  · intro reason hs ht
    rw [report_of_text hs ht]
    exact ⟨_, rfl, fun deed act wanted hd => Report.failure_ne_success h hd, Report.read?_failure⟩
  · intro f hs ht hf
    rw [report_of_reading hs ht hf]
    exact ⟨_, rfl, rfl⟩

variable {settings : Settings} {identify : String → Run Call Identity}
  {channels : String → Except Fault Response} {engine : EngineRequest → Except Fault Response}
  {token : String} {request : EngineRequest}

theorem outcome_of_engine_mem
    (hr : .engine request ∈
      (Services.overNetwork settings identify channels engine).questions settings token task) :
    ∃ user : Identity,
      ((Services.overNetwork settings identify channels engine).perform
        settings token task).outcome =
        (engine request).mapError Engine.unreachable >>= (task.plan settings user.id).conclude := by
  have hcourse := perform_course
    (Services.overNetwork settings identify channels engine).behaviour settings token task
  obtain ⟨⟨user, hu⟩, -⟩ := hcourse.engine_mem_iff.mp ⟨request, hr⟩
  exact ⟨user, Services.outcome_of_answer hu hr⟩

/-- A change that reaches the engine is reported as a success just if it is one. Of a failure the
report tells all, or it is raised with what stood in the way of a report. -/
theorem changes_reported (hc : task.Changes action expected)
    (hr : .engine request ∈
      (Services.overNetwork settings identify channels engine).questions settings token task) :
    (∀ answer, engine request = .ok answer → Report.Faithful action expected answer
      ((Services.overNetwork settings identify channels engine).perform
        settings token task).outcome) ∧
    (∀ f, engine request = .error f → f.isTransport → ∃ reason,
      ((Services.overNetwork settings identify channels engine).perform
        settings token task).outcome = .error (.refusal reason (some f)) ∧
        reason.family = .engine) ∧
    ∀ status reason other text, Report.failure action status reason =
      Report.failure action other text ↔ status = other ∧ reason = text := by
  obtain ⟨user, ho⟩ := outcome_of_engine_mem hr
  refine ⟨?_, ?_, fun _ _ _ _ => Report.failure_inj⟩
  · intro answer ha
    have hconclude : ((Services.overNetwork settings identify channels engine).perform
        settings token task).outcome = (report action expected answer).map .result := by
      rw [ho, ha]
      exact hc.conclude settings user.id
    rw [hconclude]
    exact faithful_report hc
  · intro f hf ht
    rw [ho, hf, Except.mapError_error, Engine.unreachable, if_pos ht]
    exact ⟨_, rfl, rfl⟩

end Changes

namespace Verdict

def removal : Task := .deleteStream "rain"

def services (answer : Except Fault Response) : Services Call :=
  .overNetwork .usual (fun token => .ask (.identity token) (.ok ⟨"a-b", none⟩))
    (fun _ => .ok ⟨404, "", .ok []⟩) fun _ => answer

/-- A failure, though the status would do for another change and the body says that it did. -/
def misleading : Response := ⟨201, "", .ok (Utf8.encode "Delete stream successful.")⟩

def speechless : Response := ⟨200, "", .error (.value "closed")⟩

def late : Fault := .transport .timeout "late"

theorem removal_mem_questions (answer : Except Fault Response) :
    .engine ⟨.delete, "streams/ab_rain", none⟩ ∈
      (services answer).questions .usual "t" removal := by
  have hu : ((services answer).identify "t").outcome = .ok ⟨"a-b", none⟩ := rfl
  exact (Services.engine_mem_questions_iff_of_no_channel removal hu trivial rfl rfl).mpr rfl

theorem text_misleading : misleading.text = .ok "Delete stream successful." := by
  have hb : misleading.body = .ok (Utf8.encode "Delete stream successful.") := rfl
  have hc : Response.charset? misleading.contentType = none := Response.charset?_empty
  simp only [Response.text, hb, hc]
  rfl

theorem told_by_status :
    removal.Changes "Delete stream" 200 ∧
      .engine ⟨.delete, "streams/ab_rain", none⟩ ∈
        (services (.ok misleading)).questions .usual "t" removal ∧
      .engine ⟨.delete, "streams/ab_rain", none⟩ ∈
        (services (.ok speechless)).questions .usual "t" removal ∧
      .engine ⟨.delete, "streams/ab_rain", none⟩ ∈
        (services (.error late)).questions .usual "t" removal ∧
      ((services (.ok speechless)).perform .usual "t" removal).outcome =
        .ok (.result "Delete stream successful.") ∧
      (∃ text, ((services (.ok misleading)).perform .usual "t" removal).outcome =
          .ok (.result text) ∧ text ≠ "Delete stream successful." ∧
        Report.read? "Delete stream" text = some (201, "Delete stream successful.")) ∧
      ∃ reason, ((services (.error late)).perform .usual "t" removal).outcome =
        .error (.refusal reason (some late)) ∧ reason.family = .engine := by
  have hc : removal.Changes "Delete stream" 200 := .deleteStream "rain"
  have hr := removal_mem_questions
  obtain ⟨htold, -, -⟩ := changes_reported hc (hr (.ok misleading))
  obtain ⟨hdone, -, -⟩ := changes_reported hc (hr (.ok speechless))
  obtain ⟨-, hlost, -⟩ := changes_reported hc (hr (.error late))
  refine ⟨hc, hr _, hr _, hr _, (hdone speechless rfl).success.mpr rfl, ?_, hlost late rfl rfl⟩
  obtain ⟨text, ho, hn, ht⟩ :=
    (htold misleading rfl).failure "Delete stream successful." (by decide) text_misleading
  exact ⟨text, ho, hn removal "Delete stream" 200 hc, ht⟩

end Verdict

end TenantGateway
