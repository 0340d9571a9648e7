import TenantGateway.Proofs.Words

/-! # Layouts of words

A text taken apart into its words and the blanks around them. Every text is laid out in exactly one
way, and its words are those of the layout.
-/
namespace TenantGateway.Text

/-- Words, each with the blanks after it. Only the last may have none. -/
inductive Spaced : List (List Char × List Char) → Prop where
  | nil : Spaced []
  | cons {word gap rest} (hw : IsWord word) (hg : ∀ c ∈ gap, isBlank c)
      (hne : rest ≠ [] → gap ≠ []) (hr : Spaced rest) : Spaced ((word, gap) :: rest)

/-- Blanks at the start, and then words with the blanks after them. -/
@[ext]
structure Layout where
  margin : List Char
  items : List (List Char × List Char)
  margin_blank : ∀ c ∈ margin, isBlank c
  spaced : Spaced items

namespace Layout

def itemsText (items : List (List Char × List Char)) : List Char :=
  items.flatMap fun item => item.1 ++ item.2

def text (layout : Layout) : List Char := layout.margin ++ itemsText layout.items

def words (layout : Layout) : List String := layout.items.map fun item => String.ofList item.1

@[simp] theorem itemsText_nil : itemsText [] = [] := rfl

@[simp] theorem itemsText_cons (word gap : List Char) (rest : List (List Char × List Char)) :
    itemsText ((word, gap) :: rest) = word ++ (gap ++ itemsText rest) := by
  simp [itemsText]

end Layout

open Layout

variable {word gap margin cs ds : List Char} {items others : List (List Char × List Char)}

theorem wordsOf_blanks (h : ∀ c ∈ gap, isBlank c) (cs : List Char) :
    wordsOf (gap ++ cs) = wordsOf cs := by
  induction gap with
  | nil => rfl
  | cons c gap ih =>
    have hc : isBlank c := h c List.mem_cons_self
    have hgap : ∀ d ∈ gap, isBlank d := fun d hd => h d (List.mem_cons_of_mem _ hd)
    rw [List.cons_append, wordsOf, splitFirst_blank hc]
    exact ih hgap

theorem wordsOf_itemsText (h : Spaced items) : wordsOf (itemsText items) = items.map (·.1) := by
  induction h with
  | nil => rfl
  | @cons word gap rest hw hg hne _ ih =>
    rw [itemsText_cons, List.map_cons, ← ih]
    cases gap with
    | nil =>
      -- a word with no blank after it is the last one
      have hrest : rest = [] := by
        by_contra hr
        exact hne hr rfl
      subst hrest
      rw [itemsText_nil, List.append_nil, List.append_nil, wordsOf_word hw]
      rfl
    | cons c gap =>
      have hc : isBlank c := hg c List.mem_cons_self
      have hgap : ∀ d ∈ gap, isBlank d := fun d hd => hg d (List.mem_cons_of_mem _ hd)
      rw [List.cons_append, wordsOf_word_blank hw hc, wordsOf_blanks hgap]

theorem words_of_layout {s : String} {layout : Layout} (h : layout.text = s.toList) :
    words s = layout.words := by
  rw [words, ← h, Layout.text, wordsOf_blanks layout.margin_blank, wordsOf_itemsText layout.spaced,
    List.map_map]
  rfl

theorem append_inj_of_head {α : Type} {p : α → Bool} {as bs cs ds : List α}
    (ha : ∀ a ∈ as, p a) (hb : ∀ b ∈ bs, p b) (hc : ∀ c ∈ cs.head?, p c = false)
    (hd : ∀ d ∈ ds.head?, p d = false) (h : as ++ cs = bs ++ ds) : as = bs ∧ cs = ds := by
  have htake : ∀ {xs ys : List α}, (∀ x ∈ xs, p x) → (∀ y ∈ ys.head?, p y = false) →
      (xs ++ ys).takeWhile p = xs := by
    intro xs ys hx hy
    rw [List.takeWhile_append_of_pos hx]
    cases ys with
    | nil => simp
    | cons y ys => simp [hy y rfl]
  have has : as = bs := by
    rw [← htake ha hc, h, htake hb hd]
  subst has
  exact ⟨rfl, List.append_cancel_left h⟩

theorem IsWord.head_not_blank (hw : IsWord word) (cs : List Char) :
    ∀ c ∈ (word ++ cs).head?, isBlank c = false := by
  cases word with
  | nil => exact absurd rfl hw.ne_nil
  | cons d word =>
    intro c hc
    cases hc
    exact hw.not_blank d List.mem_cons_self

theorem Spaced.head_not_blank (h : Spaced items) :
    ∀ c ∈ (itemsText items).head?, isBlank c = false := by
  cases h with
  | nil => simp
  | cons hw =>
    rw [itemsText_cons]
    exact hw.head_not_blank _

theorem Spaced.gap_head_blank {rest : List (List Char × List Char)}
    (hg : ∀ c ∈ gap, isBlank c) (hne : rest ≠ [] → gap ≠ []) :
    ∀ c ∈ (gap ++ itemsText rest).head?, (!isBlank c) = false := by
  cases gap with
  | nil =>
    have hrest : rest = [] := by
      by_contra hr
      exact hne hr rfl
    subst hrest
    simp
  | cons d gap =>
    intro c hc
    cases hc
    simp [hg d List.mem_cons_self]

theorem Spaced.itemsText_injective (h : Spaced items) (k : Spaced others)
    (he : itemsText items = itemsText others) : items = others := by
  induction h generalizing others with
  | nil =>
    cases k with
    | nil => rfl
    | cons hw =>
      rw [itemsText_cons, itemsText_nil] at he
      exact absurd (List.append_eq_nil_iff.mp he.symm).1 hw.ne_nil
  | @cons word gap rest hw hg hne hr ih =>
    cases k with
    | nil =>
      rw [itemsText_cons, itemsText_nil] at he
      exact absurd (List.append_eq_nil_iff.mp he).1 hw.ne_nil
    | @cons word' gap' rest' hw' hg' hne' hr' =>
      rw [itemsText_cons, itemsText_cons] at he
      have hletters : ∀ {w : List Char}, IsWord w → ∀ c ∈ w, (!isBlank c) = true := by
        intro w hw c hc
        simp [hw.not_blank c hc]
      obtain ⟨hword, hafter⟩ := append_inj_of_head (hletters hw) (hletters hw')
        (Spaced.gap_head_blank hg hne) (Spaced.gap_head_blank hg' hne') he
      obtain ⟨hgap, hlater⟩ :=
        append_inj_of_head hg hg' hr.head_not_blank hr'.head_not_blank hafter
      rw [hword, hgap, ih hr' hlater]

theorem Layout.text_injective {layout other : Layout} (h : layout.text = other.text) :
    layout = other := by
  obtain ⟨hmargin, hitems⟩ := append_inj_of_head layout.margin_blank other.margin_blank
    layout.spaced.head_not_blank other.spaced.head_not_blank h
  exact Layout.ext hmargin (layout.spaced.itemsText_injective other.spaced hitems)

/-- A character more at the start belongs to the blanks there, to the first word, or is a word of
its own. -/
theorem exists_layout (cs : List Char) : ∃ layout : Layout, layout.text = cs := by
  induction cs with
  | nil => exact ⟨⟨[], [], by simp, .nil⟩, rfl⟩
  | cons c cs ih =>
    obtain ⟨⟨margin, items, hm, hs⟩, rfl⟩ := ih
    by_cases hc : isBlank c
    · exact ⟨⟨c :: margin, items, List.forall_mem_cons.mpr ⟨hc, hm⟩, hs⟩, rfl⟩
    have hc : isBlank c = false := eq_false_of_ne_true hc
    by_cases hjoin : margin = [] ∧ items ≠ []
    · obtain ⟨rfl, hne⟩ := hjoin
      cases hs with
      | nil => exact absurd rfl hne
      | @cons word gap rest hw hg hsep hr =>
        have hword : IsWord (c :: word) :=
          ⟨by simp, List.forall_mem_cons.mpr ⟨hc, hw.not_blank⟩⟩
        exact ⟨⟨[], (c :: word, gap) :: rest, by simp, .cons hword hg hsep hr⟩, rfl⟩
    · have hword : IsWord [c] := ⟨by simp, by simpa using hc⟩
      have hsep : items ≠ [] → margin ≠ [] := fun hi hmargin => hjoin ⟨hmargin, hi⟩
      exact ⟨⟨[], ([c], margin) :: items, by simp, .cons hword hm hsep hs⟩, rfl⟩

theorem existsUnique_layout (cs : List Char) : ∃! layout : Layout, layout.text = cs := by
  obtain ⟨layout, h⟩ := exists_layout cs
  exact ⟨layout, h, fun other ho => Layout.text_injective (ho.trans h.symm)⟩

end TenantGateway.Text
