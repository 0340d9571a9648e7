import Mathlib.Data.List.Forall2
import TenantGateway.Proofs.Text

/-! # Forms

Texts with holes. What fills a hole ends where the mark of the hole first stands, so the parts of a
text are read back from it, as long as none holds the mark that ends it.
-/
namespace TenantGateway.Text

/-- A hole in a text: what stands before it, and what follows it up to the mark that ends it. -/
structure Hole where
  lead : List Char
  tail : List Char
  mark : Char
  mark_notMem_tail : mark ∉ tail

namespace Hole

variable {h : Hole} {holes : List Hole} {cs part rest stop : List Char} {parts : List (List Char)}

def fill (h : Hole) (part rest : List Char) : List Char :=
  h.lead ++ (part ++ h.tail ++ h.mark :: rest)

def read? (h : Hole) (cs : List Char) : Option (List Char × List Char) :=
  (h.lead.isPrefixOf? cs).bind fun cs =>
    match cs.dropWhile (· != h.mark) with
    | [] => none
    | _ :: rest => (h.tail.isSuffixOf? (cs.takeWhile (· != h.mark))).map fun part => (part, rest)

theorem read?_fill (hp : h.mark ∉ part) (rest : List Char) :
    h.read? (h.fill part rest) = some (part, rest) := by
  have hlead : h.lead.isPrefixOf? (h.fill part rest) = some (part ++ h.tail ++ h.mark :: rest) :=
    List.isPrefixOf?_eq_some_iff_append_eq.mpr rfl
  have hfree : h.mark ∉ part ++ h.tail := by
    rw [List.mem_append]
    exact not_or.mpr ⟨hp, h.mark_notMem_tail⟩
  have htail : h.tail.isSuffixOf? (part ++ h.tail) = some part :=
    List.isSuffixOf?_eq_some_iff_append_eq.mpr rfl
  rw [read?, hlead, Option.bind_some, dropWhile_of_mark hfree, takeWhile_of_mark hfree]
  simp only [htail, Option.map_some]

theorem eq_fill_of_read? (hr : h.read? cs = some (part, rest)) :
    cs = h.fill part rest ∧ h.mark ∉ part := by
  obtain ⟨ds, hlead, hcut⟩ := Option.bind_eq_some_iff.mp hr
  obtain rfl := List.isPrefixOf?_eq_some_iff_append_eq.mp hlead
  split at hcut
  · cases hcut
  · next hd =>
    obtain ⟨found, htail, he⟩ := Option.map_eq_some_iff.mp hcut
    cases he
    have hcut := List.isSuffixOf?_eq_some_iff_append_eq.mp htail
    constructor
    · rw [fill, hcut, ← eq_append_of_dropWhile hd]
    · intro hm
      have hfree : h.mark ∉ ds.takeWhile (· != h.mark) := notMem_takeWhile ds
      rw [← hcut] at hfree
      exact hfree (List.mem_append_left _ hm)

theorem read?_eq_some_iff :
    h.read? cs = some (part, rest) ↔ cs = h.fill part rest ∧ h.mark ∉ part := by
  refine ⟨eq_fill_of_read?, ?_⟩
  rintro ⟨rfl, hp⟩
  exact read?_fill hp rest

def fillAll : List Hole → List (List Char) → List Char → List Char
  | h :: holes, part :: parts, stop => h.fill part (fillAll holes parts stop)
  | _, _, stop => stop

def readAll? : List Hole → List Char → Option (List (List Char) × List Char)
  | [], cs => some ([], cs)
  | h :: holes, cs =>
    (h.read? cs).bind fun (part, rest) =>
      (readAll? holes rest).map fun (parts, stop) => (part :: parts, stop)

/-- Reading takes apart what filling puts together, and nothing else. -/
theorem readAll?_eq_some_iff :
    readAll? holes cs = some (parts, stop) ↔
      cs = fillAll holes parts stop ∧ List.Forall₂ (fun h part => h.mark ∉ part) holes parts := by
  induction holes generalizing cs parts stop with
  | nil =>
    rw [List.forall₂_nil_left_iff]
    constructor
    · rintro ⟨⟩
      exact ⟨rfl, rfl⟩
    · rintro ⟨rfl, rfl⟩
      rfl
  | cons h holes ih =>
    simp only [readAll?, Option.bind_eq_some_iff, Option.map_eq_some_iff, Prod.exists,
      read?_eq_some_iff, ih, List.forall₂_cons_left_iff]
    constructor
    · rintro ⟨part, rest, ⟨rfl, hp⟩, more, _, ⟨rfl, hm⟩, he⟩
      cases he
      exact ⟨rfl, part, more, hp, hm, rfl⟩
    · rintro ⟨rfl, part, more, hp, hm, rfl⟩
      exact ⟨part, _, ⟨rfl, hp⟩, more, stop, ⟨rfl, hm⟩, rfl⟩

end Hole

end TenantGateway.Text
