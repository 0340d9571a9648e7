import Mathlib.Data.String.Basic
import TenantGateway.Text.Blank

/-! # Laws of texts

Texts that are cut at a mark. A text without the mark ends where the mark first stands.
-/
namespace TenantGateway.Text

variable {α : Type}

theorem append_cons_inj {mark : α} {as bs cs ds : List α} (ha : mark ∉ as) (hb : mark ∉ bs) :
    as ++ mark :: cs = bs ++ mark :: ds ↔ as = bs ∧ cs = ds := by
  constructor
  · intro h
    induction as generalizing bs with
    | nil =>
      cases bs with
      | nil => exact ⟨rfl, (List.cons.inj h).2⟩
      | cons b bs => exact absurd (List.cons.inj h).1 (fun e => hb (e ▸ List.mem_cons_self))
    | cons a as ih =>
      cases bs with
      | nil => exact absurd (List.cons.inj h).1 (fun e => ha (e ▸ List.mem_cons_self))
      | cons b bs =>
        obtain ⟨rfl, hr⟩ := List.cons.inj h
        obtain ⟨rfl, hc⟩ := ih (fun hm => ha (List.mem_cons_of_mem _ hm))
          (fun hm => hb (List.mem_cons_of_mem _ hm)) hr
        exact ⟨rfl, hc⟩
  · rintro ⟨rfl, rfl⟩
    rfl

theorem append_cons_inj_of_last {mark : α} {as bs cs ds : List α} (hc : mark ∉ cs)
    (hd : mark ∉ ds) : as ++ mark :: cs = bs ++ mark :: ds ↔ as = bs ∧ cs = ds := by
  have hflip : ∀ {xs ys : List α},
      (xs ++ mark :: ys).reverse = ys.reverse ++ mark :: xs.reverse := by
    simp
  rw [← List.reverse_inj, hflip, hflip, append_cons_inj (mt List.mem_reverse.mp hc)
    (mt List.mem_reverse.mp hd), List.reverse_inj, List.reverse_inj, and_comm]

section Cut

variable [BEq α] [LawfulBEq α] {mark : α}

theorem ne_of_notMem {as : List α} (h : mark ∉ as) : ∀ a ∈ as, (a != mark) = true := by
  intro a ha
  rw [bne_iff_ne]
  rintro rfl
  exact h ha

theorem takeWhile_of_mark {as : List α} (h : mark ∉ as) (bs : List α) :
    (as ++ mark :: bs).takeWhile (· != mark) = as := by
  rw [List.takeWhile_append_of_pos (ne_of_notMem h)]
  simp

theorem dropWhile_of_mark {as : List α} (h : mark ∉ as) (bs : List α) :
    (as ++ mark :: bs).dropWhile (· != mark) = mark :: bs := by
  rw [List.dropWhile_append_of_pos (ne_of_notMem h)]
  simp

theorem notMem_takeWhile (as : List α) : mark ∉ as.takeWhile (· != mark) := by
  intro h
  have ha := List.all_eq_true.mp (@List.all_takeWhile _ (· != mark) as) mark h
  simp at ha

theorem eq_append_of_dropWhile {as rest : List α} {a : α}
    (h : as.dropWhile (· != mark) = a :: rest) :
    as = as.takeWhile (· != mark) ++ mark :: rest := by
  have hm : (a != mark) = false := by
    have hd := List.head?_dropWhile_not (· != mark) as
    rwa [h] at hd
  have ha : a = mark := by simpa using hm
  rw [ha] at h
  rw [← h, List.takeWhile_append_dropWhile]

end Cut

theorem splitOn_empty {mark : String} (h : mark ≠ "") : "".splitOn mark = [""] := by
  simp only [String.splitOn, beq_iff_eq, h, if_false]
  rw [String.splitOnAux]
  rfl

section Split

open String

/-- Splitting goes on at a part that has so far come to `m`. -/
theorem splitOnAux_singleton (mark : Char) (l m r : List Char) (acc : List String) :
    splitOnAux (ofList (l ++ m ++ r)) (ofList [mark]) ⟨utf8Len l⟩ ⟨utf8Len (l ++ m)⟩ 0 acc =
      acc.reverse ++ (List.splitOnPPrepend (· == mark) r m.reverse).map ofList := by
  rw [splitOnAux]
  cases r with
  | nil =>
    have hend := (atEnd_of_valid (l ++ m) []).mpr rfl
    rw [if_pos hend, utf8Len_append, extract_of_valid]
    simp
  | cons c r =>
    have hend : ¬ Pos.Raw.atEnd (ofList (l ++ m ++ c :: r)) ⟨utf8Len (l ++ m)⟩ = true :=
      fun h => nomatch (atEnd_of_valid (l ++ m) (c :: r)).mp h
    have hget := get_of_valid (l ++ m) (c :: r)
    have hnext := next_of_valid (l ++ m) c r
    have hmark : Pos.Raw.get (ofList [mark]) 0 = mark := get_of_valid [] [mark]
    have hstep : Pos.Raw.next (ofList [mark]) 0 = ⟨mark.utf8Size⟩ := by
      simpa using next_of_valid [] mark []
    have hlast : Pos.Raw.atEnd (ofList [mark]) ⟨mark.utf8Size⟩ = true := by
      simpa using atEnd_of_valid [mark] []
    rw [if_neg hend]
    simp only [hget, hmark, hstep, hlast, List.headD_cons, if_true,
      List.splitOnPPrepend_cons_eq_if]
    by_cases hc : c = mark
    · subst hc
      have hpart := extract_of_valid l m (c :: r)
      have hback : Pos.Raw.unoffsetBy ⟨utf8Len (l ++ m) + c.utf8Size⟩ ⟨c.utf8Size⟩ =
          ⟨utf8Len (l ++ m)⟩ := by simp [Pos.Raw.unoffsetBy]
      have ih := splitOnAux_singleton c (l ++ m ++ [c]) [] r (ofList m :: acc)
      rw [← utf8Len_append] at hpart
      rw [if_pos (beq_self_eq_true c), if_pos (beq_self_eq_true c), hnext, hback, hpart]
      simpa [Nat.add_assoc] using ih
    · have hne : ¬ (c == mark) = true := by simpa using hc
      have hback : Pos.Raw.unoffsetBy (⟨utf8Len (l ++ m)⟩ : Pos.Raw) 0 = ⟨utf8Len (l ++ m)⟩ := rfl
      have ih := splitOnAux_singleton mark l (m ++ [c]) r acc
      rw [if_neg hne, if_neg hne, hback, hnext]
      simpa [Nat.add_assoc] using ih
termination_by r

theorem splitOn_singleton (s : String) (mark : Char) :
    s.splitOn (singleton mark) = (s.toList.splitOnP (· == mark)).map ofList := by
  have h := splitOnAux_singleton mark [] [] s.toList []
  have hm : singleton mark = ofList [mark] := by simp
  have hn : (ofList [mark] == "") = false := by simp
  rw [hm, splitOn, hn]
  simp only [List.nil_append, utf8Len_nil, List.reverse_nil, ofList_toList] at h
  exact h

end Split

/-- A text is `base` and then marks, with which `base` does not end. -/
structure Trimmed (mark : Char) (s base : String) : Prop where
  marks : ∃ n, s = base ++ String.ofList (List.replicate n mark)
  ends : ¬ [mark] <:+ base.toList

theorem exists_takeWhile_eq_replicate (mark : Char) (cs : List Char) :
    ∃ n, cs.takeWhile (· == mark) = List.replicate n mark := by
  refine ⟨_, List.eq_replicate_iff.mpr ⟨rfl, fun c hc => ?_⟩⟩
  simpa using List.all_eq_true.mp List.all_takeWhile c hc

theorem trimmed_dropTrailing (mark : Char) (s : String) :
    Trimmed mark s (dropTrailing mark s) := by
  constructor
  · obtain ⟨n, hn⟩ := exists_takeWhile_eq_replicate mark s.toList.reverse
    refine ⟨n, String.toList_inj.mp ?_⟩
    rw [dropTrailing, String.toList_append, String.toList_ofList, String.toList_ofList,
      ← List.reverse_inj, List.reverse_append, List.reverse_reverse, List.reverse_replicate, ← hn,
      List.takeWhile_append_dropWhile]
  · rw [dropTrailing, String.toList_ofList, ← List.reverse_prefix, List.reverse_reverse]
    rintro ⟨rest, hr⟩
    have hd := List.head?_dropWhile_not (· == mark) s.toList.reverse
    rw [← hr] at hd
    simp at hd

theorem Trimmed.eq_dropTrailing {mark : Char} {s base : String} (h : Trimmed mark s base) :
    base = dropTrailing mark s := by
  obtain ⟨⟨n, rfl⟩, hends⟩ := h
  have hm : ∀ c ∈ List.replicate n mark, (c == mark) = true := by
    intro c hc
    rw [List.eq_of_mem_replicate hc]
    exact beq_self_eq_true mark
  have hb : base.toList.reverse.dropWhile (· == mark) = base.toList.reverse := by
    cases hr : base.toList.reverse with
    | nil => rfl
    | cons c cs =>
      refine List.dropWhile_cons_of_neg fun hc => hends ?_
      rw [← List.reverse_prefix, hr, beq_iff_eq.mp hc]
      exact ⟨cs, rfl⟩
  rw [dropTrailing, String.toList_append, String.toList_ofList, List.reverse_append,
    List.reverse_replicate, List.dropWhile_append_of_pos hm, hb, List.reverse_reverse,
    String.ofList_toList]

theorem cons_suffix_append_iff {mark : α} {marked front rest : List α} (h : mark ∉ front) :
    mark :: marked <:+ front ++ rest ↔ mark :: marked <:+ rest := by
  induction front with
  | nil => rfl
  | cons c front ih =>
    obtain ⟨hc, hf⟩ := not_or.mp (mt List.mem_cons.mpr h)
    rw [List.cons_append, List.suffix_cons_iff, ih hf]
    constructor
    · rintro (he | hs)
      · exact absurd (List.cons.inj he).1 hc
      · exact hs
    · exact .inr

theorem mark_suffix_append_iff {mark : α} {front rest : List α} (h : rest ≠ []) :
    [mark] <:+ front ++ rest ↔ [mark] <:+ rest := by
  constructor
  · intro hs
    exact List.suffix_of_suffix_length_le hs (List.suffix_append _ _) (List.length_pos_iff.mpr h)
  · intro hs
    exact hs.trans (List.suffix_append _ _)

theorem dropTrailing_append {mark : Char} {front rest : String}
    (h : ¬ [mark] <:+ (front ++ dropTrailing mark rest).toList) :
    dropTrailing mark (front ++ rest) = front ++ dropTrailing mark rest := by
  obtain ⟨n, hn⟩ := (trimmed_dropTrailing mark rest).marks
  have ht : Trimmed mark (front ++ rest) (front ++ dropTrailing mark rest) := by
    refine ⟨⟨n, ?_⟩, h⟩
    rw [String.append_assoc, ← hn]
  exact ht.eq_dropTrailing.symm

theorem dropTrailing_ne_empty {mark c : Char} {s : String} (hc : c ∈ s.toList) (hm : c ≠ mark) :
    dropTrailing mark s ≠ "" := by
  intro he
  obtain ⟨n, hn⟩ := (trimmed_dropTrailing mark s).marks
  rw [he, String.empty_append] at hn
  rw [hn, String.toList_ofList] at hc
  exact hm (List.eq_of_mem_replicate hc)

end TenantGateway.Text
