import Mathlib.Data.List.Basic
import Mathlib.Data.List.Forall2
import TenantGateway.Namespace
import TenantGateway.Proofs.Text

/-! # Laws of names

Tags in front of names. A tag ends at its first underscore when the identity has none, so no two
such tags lead into each other's names; hyphens are all that is lost of an identity.
-/
namespace TenantGateway.Namespace

open Text

variable {u v n m : String}

@[simp] theorem toList_compact (u : String) : (compact u).toList = u.toList.filter (· != '-') := by
  simp [compact]

@[simp] theorem toList_tag (u : String) : (tag u).toList = (compact u).toList ++ ['_'] := by
  simp [tag]

@[simp] theorem toList_qualify (u n : String) :
    (qualify u n).toList = (tag u).toList ++ n.toList := by
  simp [qualify]

theorem tag_congr (h : compact u = compact v) : tag u = tag v := by
  rw [tag, tag, h]

theorem qualify_congr (h : compact u = compact v) : qualify u = qualify v := by
  funext n
  rw [qualify, qualify, tag_congr h]

theorem unqualify_congr (h : compact u = compact v) : unqualify u = unqualify v := by
  funext n
  rw [unqualify, unqualify, tag_congr h]

theorem unqualifyAll_congr (h : compact u = compact v) : unqualifyAll u = unqualifyAll v := by
  funext names
  rw [unqualifyAll, unqualifyAll, unqualify_congr h]

theorem qualifySource_congr (h : compact u = compact v) : qualifySource u = qualifySource v := by
  funext words
  induction words with
  | nil => rfl
  | cons word rest ih => simp only [qualifySource, ih, qualify_congr h]

theorem qualifyQuery_congr (h : compact u = compact v) : qualifyQuery u = qualifyQuery v := by
  funext query
  rw [qualifyQuery, qualifyQuery, qualifySource_congr h]

theorem unqualify_of_leading_tag {rest : List Char} (h : n.toList = (tag u).toList ++ rest) :
    unqualify u n = String.ofList rest := by
  have hr : (tag u).toList.isPrefixOf? n.toList = some rest :=
    List.isPrefixOf?_eq_some_iff_append_eq.mpr h.symm
  rw [unqualify, hr]

theorem unqualify_of_no_leading_tag (h : ¬ (tag u).toList <+: n.toList) : unqualify u n = n := by
  rw [unqualify]
  cases hr : (tag u).toList.isPrefixOf? n.toList with
  | none => rfl
  | some rest =>
    exact absurd ⟨rest, List.isPrefixOf?_eq_some_iff_append_eq.mp hr⟩ h

theorem unqualify_qualify (u n : String) : unqualify u (qualify u n) = n := by
  rw [unqualify_of_leading_tag (toList_qualify u n), String.ofList_toList]

/-- How a name is shown to a user: an own one without the tag, and any other one as it is. -/
inductive ShownAs (user : String) : (name shown : String) → Prop where
  | own (name : String) : ShownAs user (qualify user name) name
  | foreign {name : String} (h : ¬ (tag user).toList <+: name.toList) : ShownAs user name name

theorem tag_prefix_qualify (u n : String) : (tag u).toList <+: (qualify u n).toList :=
  ⟨n.toList, (toList_qualify u n).symm⟩

theorem exists_eq_qualify (h : (tag u).toList <+: n.toList) : ∃ m, n = qualify u m := by
  obtain ⟨rest, hr⟩ := h
  refine ⟨String.ofList rest, String.toList_inj.mp ?_⟩
  rw [toList_qualify, String.toList_ofList, hr]

theorem shownAs_iff : ShownAs u n m ↔ unqualify u n = m := by
  constructor
  · intro h
    cases h with
    | own => exact unqualify_qualify u m
    | foreign hn => exact unqualify_of_no_leading_tag hn
  · rintro rfl
    by_cases hp : (tag u).toList <+: n.toList
    · obtain ⟨m, rfl⟩ := exists_eq_qualify hp
      rw [unqualify_qualify]
      exact .own m
    · rw [unqualify_of_no_leading_tag hp]
      exact .foreign hp

theorem qualify_injective (h : qualify u n = qualify u m) : n = m := by
  rw [← unqualify_qualify u n, h, unqualify_qualify]

/-- A name that is shown is read back as the user's own just if it is the user's own. -/
theorem ShownAs.qualify_eq_iff (h : ShownAs u n m) :
    qualify u m = n ↔ (tag u).toList <+: n.toList := by
  cases h with
  | own => exact iff_of_true rfl (tag_prefix_qualify u m)
  | foreign hn =>
    refine iff_of_false (fun he => hn ?_) hn
    rw [← he]
    exact tag_prefix_qualify u n

/-- Names are shown alike where one is the other's own form. -/
theorem ShownAs.eq_iff {x y : String} (hn : ShownAs u n x) (hm : ShownAs u m y) (hne : n ≠ m) :
    x = y ↔ (n = qualify u m ∧ ¬ (tag u).toList <+: m.toList) ∨
      (m = qualify u n ∧ ¬ (tag u).toList <+: n.toList) := by
  -- A foreign name is the own form of none.
  have hfree : ∀ {name other : String}, ¬ (tag u).toList <+: name.toList →
      name ≠ qualify u other := by
    rintro _ other hf rfl
    exact hf (tag_prefix_qualify u other)
  cases hn with
  | own =>
    cases hm with
    | own =>
      refine iff_of_false (fun he => hne (by rw [he])) ?_
      rintro (⟨-, hf⟩ | ⟨-, hf⟩)
      · exact hf (tag_prefix_qualify u y)
      · exact hf (tag_prefix_qualify u x)
    | foreign hf =>
      constructor
      · rintro rfl
        exact .inl ⟨rfl, hf⟩
      · rintro (⟨he, -⟩ | ⟨he, -⟩)
        · exact qualify_injective he
        · exact absurd he (hfree hf)
  | foreign hf =>
    cases hm with
    | own =>
      constructor
      · rintro rfl
        exact .inr ⟨rfl, hf⟩
      · rintro (⟨he, -⟩ | ⟨he, -⟩)
        · exact absurd he (hfree hf)
        · exact (qualify_injective he).symm
    | foreign hg =>
      refine iff_of_false hne ?_
      rintro (⟨he, -⟩ | ⟨he, -⟩)
      · exact hfree hf he
      · exact hfree hg he

theorem forall₂_shownAs_iff {names shown : List String} :
    List.Forall₂ (ShownAs u) names shown ↔ unqualifyAll u names = shown := by
  induction names generalizing shown with
  | nil => simp [unqualifyAll, eq_comm]
  | cons name names ih =>
    simp only [List.forall₂_cons_left_iff, shownAs_iff, ih, unqualifyAll, List.map_cons]
    constructor
    · rintro ⟨first, rest, rfl, rfl, rfl⟩
      rfl
    · rintro rfl
      exact ⟨_, _, rfl, rfl, rfl⟩

/-- Two users share a name if and only if one tag leads into the other. -/
theorem exists_qualify_eq_iff :
    (∃ n m, qualify u n = qualify v m) ↔
      (tag u).toList <+: (tag v).toList ∨ (tag v).toList <+: (tag u).toList := by
  constructor
  · rintro ⟨n, m, h⟩
    have hu : (tag u).toList <+: (qualify u n).toList := ⟨n.toList, (toList_qualify u n).symm⟩
    have hv : (tag v).toList <+: (qualify u n).toList := ⟨m.toList, by rw [h, toList_qualify]⟩
    exact List.prefix_or_prefix_of_prefix hu hv
  · rintro (⟨rest, h⟩ | ⟨rest, h⟩)
    · refine ⟨String.ofList rest, "", String.toList_inj.mp ?_⟩
      simp [← h]
    · refine ⟨"", String.ofList rest, String.toList_inj.mp ?_⟩
      simp [← h]

/-- Without underscores in the identities, a tag ends at its first underscore. -/
theorem compact_eq_of_leading_tag (hu : '_' ∉ (compact u).toList) (hv : '_' ∉ (compact v).toList)
    {rest : List Char} (h : (tag u).toList <+: (tag v).toList ++ rest) : compact u = compact v := by
  obtain ⟨more, h⟩ := h
  simp only [toList_tag, List.append_assoc, List.singleton_append] at h
  exact String.toList_inj.mp ((append_cons_inj hu hv).mp h).1

theorem qualify_eq_qualify_iff (hu : '_' ∉ (compact u).toList) (hv : '_' ∉ (compact v).toList) :
    qualify u n = qualify v m ↔ compact u = compact v ∧ n = m := by
  constructor
  · intro h
    have hp : (tag u).toList <+: (tag v).toList ++ m.toList :=
      ⟨n.toList, by rw [← toList_qualify, ← toList_qualify, h]⟩
    have hc := compact_eq_of_leading_tag hu hv hp
    rw [qualify_congr hc] at h
    exact ⟨hc, qualify_injective h⟩
  · rintro ⟨hc, rfl⟩
    rw [qualify_congr hc]

theorem unqualify_foreign (hu : '_' ∉ (compact u).toList) (hv : '_' ∉ (compact v).toList)
    (hne : compact u ≠ compact v) (m : String) : unqualify u (qualify v m) = qualify v m := by
  apply unqualify_of_no_leading_tag
  intro hp
  rw [toList_qualify] at hp
  exact hne (compact_eq_of_leading_tag hu hv hp)

def HasSource (query : String) : Prop :=
  ∃ before source after, words query = before ++ "from" :: source :: after ∧ "from" ∉ before

theorem qualifySource_skip {before : List String} (h : "from" ∉ before) (u : String)
    (rest : List String) :
    qualifySource u (before ++ rest) = (qualifySource u rest).map (before ++ ·) := by
  induction before with
  | nil =>
    rw [List.nil_append]
    cases qualifySource u rest <;> rfl
  | cons word before ih =>
    have hw : word ≠ "from" := fun e => h (e ▸ List.mem_cons_self)
    have hb : "from" ∉ before := fun hm => h (List.mem_cons_of_mem _ hm)
    simp only [List.cons_append, qualifySource, hw, if_false, ih hb]
    cases qualifySource u rest <;> rfl

theorem qualifySource_of_source {before : List String} (h : "from" ∉ before) (u source : String)
    (after : List String) :
    qualifySource u (before ++ "from" :: source :: after) =
      .ok (before ++ "from" :: qualify u source :: after) := by
  rw [qualifySource_skip h]
  rfl

theorem qualifySource_of_end {before : List String} (h : "from" ∉ before) (u : String) :
    qualifySource u (before ++ ["from"]) = .error .noSource := by
  rw [qualifySource_skip h]
  rfl

theorem qualifySource_of_notMem {words : List String} (h : "from" ∉ words) (u : String) :
    qualifySource u words = .error .noSourceClause := by
  rw [← List.append_nil words, qualifySource_skip h]
  rfl

theorem qualifySource_eq_ok_iff {words out : List String} :
    qualifySource u words = .ok out ↔
      ∃ before source after, words = before ++ "from" :: source :: after ∧ "from" ∉ before ∧
        out = before ++ "from" :: qualify u source :: after := by
  constructor
  · intro h
    by_cases hm : "from" ∈ words
    · obtain ⟨before, rest, rfl, hb⟩ := List.eq_append_cons_of_mem hm
      cases rest with
      | nil =>
        rw [qualifySource_of_end hb] at h
        cases h
      | cons source after =>
        rw [qualifySource_of_source hb] at h
        cases h
        exact ⟨before, source, after, rfl, hb, rfl⟩
    · rw [qualifySource_of_notMem hm] at h
      cases h
  · rintro ⟨before, source, after, rfl, hb, rfl⟩
    exact qualifySource_of_source hb u source after

theorem qualifyQuery_of_source {query source : String} {before after : List String} (u : String)
    (hq : words query = before ++ "from" :: source :: after) (hb : "from" ∉ before) :
    qualifyQuery u query =
      .ok (" ".intercalate (before ++ "from" :: qualify u source :: after)) := by
  rw [qualifyQuery, hq, qualifySource_of_source hb]
  rfl

theorem exists_qualifyQuery_iff (u : String) {query : String} :
    (∃ out, qualifyQuery u query = .ok out) ↔ HasSource query := by
  constructor
  · rintro ⟨out, h⟩
    rw [qualifyQuery] at h
    cases hq : qualifySource u (words query) with
    | error r =>
      rw [hq] at h
      cases h
    | ok ws =>
      obtain ⟨before, source, after, hw, hb, -⟩ := qualifySource_eq_ok_iff.mp hq
      exact ⟨before, source, after, hw, hb⟩
  · rintro ⟨before, source, after, hw, hb⟩
    exact ⟨_, qualifyQuery_of_source u hw hb⟩

end TenantGateway.Namespace
