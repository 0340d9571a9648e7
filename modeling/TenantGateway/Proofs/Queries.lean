import Mathlib.Data.List.Basic
import TenantGateway.Proofs.Layout
import TenantGateway.Proofs.Namespace

/-! # Queries

What becomes of a query. Only its words count, and of these the one after the first `from` is
changed and no other. What comes of that is a query with the same words around the same source.
-/
namespace TenantGateway.Namespace

open Text

variable {user query source : String} {ws : List String}

theorem idxOf_first {before : List String} (h : "from" ∉ before) (rest : List String) :
    (before ++ "from" :: rest).idxOf "from" = before.length := by
  rw [List.idxOf_append_of_notMem h, List.idxOf_cons_self, Nat.add_zero]

/-- Words either have no `from`, or end with the first one, or have a source after it. -/
theorem first_from_cases (ws : List String) :
    "from" ∉ ws ∨
      (∃ before, ws = before ++ ["from"] ∧ "from" ∉ before) ∨
      ∃ before source after, ws = before ++ "from" :: source :: after ∧ "from" ∉ before := by
  by_cases hm : "from" ∈ ws
  · obtain ⟨before, rest, rfl, hb⟩ := List.eq_append_cons_of_mem hm
    cases rest with
    | nil => exact .inr (.inl ⟨before, rfl, hb⟩)
    | cons source after => exact .inr (.inr ⟨before, source, after, rfl, hb⟩)
  · exact .inl hm

theorem exists_around_source (h : ws[ws.idxOf "from" + 1]? = some source) :
    ∃ before after, ws = before ++ "from" :: source :: after ∧ "from" ∉ before := by
  rcases first_from_cases ws with hn | ⟨before, rfl, hb⟩ | ⟨before, found, after, rfl, hb⟩
  · rw [List.idxOf_eq_length hn] at h
    simp at h
  · rw [idxOf_first hb] at h
    simp at h
  · rw [idxOf_first hb] at h
    have hs : found = source := by simpa using h
    exact ⟨before, after, by rw [hs], hb⟩

theorem set_source {before after : List String} (h : "from" ∉ before) (source new : String) :
    (before ++ "from" :: source :: after).set
        ((before ++ "from" :: source :: after).idxOf "from" + 1) new =
      before ++ "from" :: new :: after := by
  rw [idxOf_first h]
  simp

theorem exists_qualifySource_error_iff (user : String) (ws : List String) :
    (∃ reason, qualifySource user ws = .error reason) ↔
      "from" ∉ ws ∨ ws.idxOf "from" + 1 = ws.length := by
  rcases first_from_cases ws with hn | ⟨before, rfl, hb⟩ | ⟨before, source, after, rfl, hb⟩
  · exact iff_of_true ⟨_, qualifySource_of_notMem hn user⟩ (.inl hn)
  · refine iff_of_true ⟨_, qualifySource_of_end hb user⟩ (.inr ?_)
    rw [idxOf_first hb]
    simp
  · rw [qualifySource_of_source hb]
    refine iff_of_false (by simp) ?_
    rintro (hn | hlast)
    · simp at hn
    · rw [idxOf_first hb] at hlast
      simp at hlast

theorem family_of_qualifySource_error {reason : Refusal}
    (h : qualifySource user ws = .error reason) : reason.family = .malformed := by
  rcases first_from_cases ws with hn | ⟨before, rfl, hb⟩ | ⟨before, source, after, rfl, hb⟩
  · rw [qualifySource_of_notMem hn] at h
    cases h
    rfl
  · rw [qualifySource_of_end hb] at h
    cases h
    rfl
  · rw [qualifySource_of_source hb] at h
    cases h

theorem qualifyQuery_eq_error_iff {reason : Refusal} :
    qualifyQuery user query = .error reason ↔
      qualifySource user (words query) = .error reason := by
  rw [qualifyQuery]
  cases qualifySource user (words query) <;> simp [Except.map]

theorem isWord_qualify {name : String} (hu : ∀ c ∈ user.toList, isBlank c = false)
    (hn : IsWord name.toList) : IsWord (qualify user name).toList := by
  constructor
  · simp
  · intro c hc
    simp only [toList_qualify, toList_tag, toList_compact, List.mem_append, List.mem_filter,
      List.mem_singleton] at hc
    rcases hc with (⟨hc, -⟩ | rfl) | hc
    · exact hu c hc
    · rfl
    · exact hn.not_blank c hc

theorem exists_qualifyQuery_words {before after : List String}
    (hu : ∀ c ∈ user.toList, isBlank c = false)
    (hq : words query = before ++ "from" :: source :: after) (hb : "from" ∉ before) :
    ∃ sql, qualifyQuery user query = .ok sql ∧
      words sql = before ++ "from" :: qualify user source :: after := by
  have hw : ∀ word ∈ before ++ "from" :: source :: after, IsWord word.toList := by
    intro word hm
    rw [← hq] at hm
    exact isWord_of_mem_words hm
  refine ⟨_, qualifyQuery_of_source user hq hb, ?_⟩
  apply words_intercalate
  simp only [List.forall_mem_append, List.forall_mem_cons] at hw ⊢
  obtain ⟨hbefore, hfrom, hsource, hafter⟩ := hw
  exact ⟨hbefore, hfrom, isWord_qualify hu hsource, hafter⟩

/-- What is promised of a query with these words. Its source is the word after the first `from`. -/
structure SourceRewritten (user query : String) (ws : List String) : Prop where
  refused : (∃ reason, qualifyQuery user query = .error reason) ↔
    "from" ∉ ws ∨ ws.idxOf "from" + 1 = ws.length
  malformed : ∀ reason, qualifyQuery user query = .error reason → reason.family = .malformed
  rewritten : ∀ source, ws[ws.idxOf "from" + 1]? = some source →
    qualifyQuery user query =
      .ok (" ".intercalate (ws.set (ws.idxOf "from" + 1) (tag user ++ source)))
  /-- What is sent can be sent again, under any user's tag. -/
  sent : (∀ c ∈ user.toList, isBlank c = false) → ∀ sql, qualifyQuery user query = .ok sql →
    ∃ source, ws[ws.idxOf "from" + 1]? = some source ∧
      words sql = ws.set (ws.idxOf "from" + 1) (tag user ++ source) ∧
      (words sql).idxOf "from" = ws.idxOf "from" ∧
      ∀ other, qualifyQuery other sql =
        .ok (" ".intercalate
          (ws.set (ws.idxOf "from" + 1) (tag other ++ (tag user ++ source))))

theorem sourceRewritten_words (user query : String) :
    SourceRewritten user query (words query) := by
  constructor
  · simp only [qualifyQuery_eq_error_iff]
    exact exists_qualifySource_error_iff user (words query)
  · intro reason h
    exact family_of_qualifySource_error (qualifyQuery_eq_error_iff.mp h)
  · intro source h
    obtain ⟨before, after, hq, hb⟩ := exists_around_source h
    rw [qualifyQuery_of_source user hq hb, hq, set_source hb]
    rfl
  · intro hu sql h
    obtain ⟨before, source, after, hq, hb⟩ := (exists_qualifyQuery_iff user).mp ⟨sql, h⟩
    obtain ⟨out, ho, hw⟩ := exists_qualifyQuery_words hu hq hb
    have hsql : sql = out := Except.ok.inj (h.symm.trans ho)
    subst hsql
    refine ⟨source, ?_, ?_, ?_, ?_⟩
    · rw [hq, idxOf_first hb]
      simp
    · rw [hw, hq, set_source hb]
      rfl
    · rw [hw, hq, idxOf_first hb, idxOf_first hb]
    · intro other
      rw [qualifyQuery_of_source other hw hb, hq, set_source hb]
      rfl

/-- However a query is laid out, there is one way to take it apart into words, and they alone say
what becomes of it: it is refused if nothing stands after the first `from` in it, and otherwise the
word there is given the user's tag. -/
theorem source_alone_rewritten (user query : String) :
    (∃! layout : Layout, layout.text = query.toList) ∧
      ∀ layout : Layout, layout.text = query.toList →
        SourceRewritten user query layout.words ∧
          ∀ other : Layout, other.words = layout.words →
            qualifyQuery user (String.ofList other.text) = qualifyQuery user query := by
  refine ⟨existsUnique_layout _, ?_⟩
  intro layout h
  have hw : words query = layout.words := words_of_layout h
  constructor
  · rw [← hw]
    exact sourceRewritten_words user query
  · intro other ho
    have hother : words (String.ofList other.text) = other.words :=
      words_of_layout String.toList_ofList.symm
    rw [qualifyQuery, qualifyQuery, hother, ho, hw]

namespace Reprise

/-- Blanks of several kinds, and a source that is called `from` too. -/
def draft : String := "select\t* \n from\u00a0 from "

def layout : Layout where
  margin := []
  items := [("select".toList, ['\t']), ("*".toList, [' ', '\n', ' ']),
    ("from".toList, ['\u00a0', ' ']), ("from".toList, [' '])]
  margin_blank := nofun
  spaced := by
    refine .cons ⟨?_, ?_⟩ ?_ ?_ (.cons ⟨?_, ?_⟩ ?_ ?_ (.cons ⟨?_, ?_⟩ ?_ ?_
      (.cons ⟨?_, ?_⟩ ?_ ?_ .nil))) <;> simp [isBlank, isSpace]

theorem text_layout : layout.text = draft.toList := by decide +kernel

/-- The second `from` is the source, and stays it when the query is sent on. -/
theorem from_from_rewritten :
    layout.text = draft.toList ∧ (∀ c ∈ "a-b".toList, isBlank c = false) ∧
      qualifyQuery "a-b" draft = .ok "select * from ab_from" ∧
      words "select * from ab_from" = ["select", "*", "from", "ab_from"] ∧
      qualifyQuery "c" "select * from ab_from" = .ok "select * from c_ab_from" := by
  obtain ⟨-, h⟩ := source_alone_rewritten "a-b" draft
  obtain ⟨hr, -⟩ := h layout text_layout
  have hu : ∀ c ∈ "a-b".toList, isBlank c = false := by simp [isBlank, isSpace]
  have hq : qualifyQuery "a-b" draft = .ok "select * from ab_from" := hr.rewritten "from" rfl
  obtain ⟨source, hs, hw, -, hagain⟩ := hr.sent hu _ hq
  cases hs
  exact ⟨text_layout, hu, hq, hw, hagain "c"⟩

end Reprise

end TenantGateway.Namespace
