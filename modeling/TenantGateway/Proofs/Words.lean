import Mathlib.Data.List.Basic
import TenantGateway.Text.Blank

/-! # Laws of words

Words are what a text is split into, and a text whose words are set one space apart is split into
them again.
-/
namespace TenantGateway.Text

/-- Characters, at least one, none of them blank. -/
structure IsWord (w : List Char) : Prop where
  ne_nil : w ≠ []
  not_blank : ∀ c ∈ w, isBlank c = false

variable {w cs : List Char} {c : Char}

theorem splitFirst_append (h : ∀ c ∈ w, isBlank c = false) (cs : List Char) :
    splitFirst (w ++ cs) = (w ++ (splitFirst cs).1, (splitFirst cs).2) := by
  induction w with
  | nil => rfl
  | cons d w ih =>
    have hd := h d List.mem_cons_self
    rw [List.cons_append, splitFirst, ih fun c hc => h c (List.mem_cons_of_mem _ hc)]
    simp only [hd, Bool.false_eq_true, if_false, List.cons_append]

theorem splitFirst_blank (h : isBlank c) (cs : List Char) :
    splitFirst (c :: cs) = ([], wordsOf cs) := by
  simp only [splitFirst, h, if_true, wordsOf]

theorem wordsOf_word_blank (hw : IsWord w) (h : isBlank c) (cs : List Char) :
    wordsOf (w ++ c :: cs) = w :: wordsOf cs := by
  rw [wordsOf, splitFirst_append hw.not_blank, splitFirst_blank h]
  simp only [List.append_nil, hw.ne_nil, if_false]

theorem wordsOf_word (hw : IsWord w) : wordsOf w = [w] := by
  have hs := splitFirst_append hw.not_blank []
  rw [List.append_nil] at hs
  rw [wordsOf, hs]
  simp [splitFirst, hw.ne_nil]

theorem wordsOf_intercalate {ws : List (List Char)} (h : ∀ w ∈ ws, IsWord w) :
    wordsOf ([' '].intercalate ws) = ws := by
  induction ws with
  | nil => rfl
  | cons w ws ih =>
    have hw := h w List.mem_cons_self
    have ih := ih fun v hv => h v (List.mem_cons_of_mem _ hv)
    cases ws with
    | nil => simpa using wordsOf_word hw
    | cons v ws =>
      rw [List.intercalate_cons_cons, List.append_assoc, List.singleton_append,
        wordsOf_word_blank hw rfl, ih]

theorem splitFirst_spec (cs : List Char) :
    (∀ c ∈ (splitFirst cs).1, isBlank c = false) ∧ ∀ w ∈ (splitFirst cs).2, IsWord w := by
  induction cs with
  | nil => exact ⟨fun _ hc => absurd hc List.not_mem_nil, fun _ hw => absurd hw List.not_mem_nil⟩
  | cons d cs ih =>
    obtain ⟨hword, hlater⟩ := ih
    by_cases hd : isBlank d
    · simp only [splitFirst, hd, if_true, List.not_mem_nil, false_imp_iff, implies_true, true_and]
      split_ifs with hn
      · exact hlater
      · exact List.forall_mem_cons.mpr ⟨⟨hn, hword⟩, hlater⟩
    · simp only [splitFirst, hd, if_false, Bool.false_eq_true]
      exact ⟨List.forall_mem_cons.mpr ⟨eq_false_of_ne_true hd, hword⟩, hlater⟩

theorem isWord_of_mem_wordsOf (h : w ∈ wordsOf cs) : IsWord w := by
  obtain ⟨hword, hlater⟩ := splitFirst_spec cs
  simp only [wordsOf] at h
  split_ifs at h with hn
  · exact hlater w h
  · rcases List.mem_cons.mp h with rfl | h
    · exact ⟨hn, hword⟩
    · exact hlater w h

theorem isWord_of_mem_words {s word : String} (h : word ∈ words s) : IsWord word.toList := by
  obtain ⟨w, hw, rfl⟩ := List.mem_map.mp h
  rw [String.toList_ofList]
  exact isWord_of_mem_wordsOf hw

theorem words_intercalate {ws : List String} (h : ∀ word ∈ ws, IsWord word.toList) :
    words (" ".intercalate ws) = ws := by
  have hw : ∀ w ∈ ws.map String.toList, IsWord w := by
    intro w hm
    obtain ⟨word, hword, rfl⟩ := List.mem_map.mp hm
    exact h word hword
  rw [words, String.toList_intercalate]
  show (wordsOf ([' '].intercalate _)).map _ = _
  rw [wordsOf_intercalate hw, List.map_map]
  simp

end TenantGateway.Text
