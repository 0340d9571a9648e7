import Mathlib.Data.List.Nodup
import Mathlib.Data.List.TakeWhile
import TenantGateway.Http.Template
import TenantGateway.Proofs.Text

/-! # Laws of paths with parameters

A path that consists of two parts is fitted part by part. What stands for a parameter has no slash
in it, unless the parameter takes whole paths.
-/
namespace TenantGateway.Http

open Text

namespace Kind

theorem mem_down_iff {least most n : Nat} : n ∈ down least most ↔ least ≤ n ∧ n ≤ most := by
  simp only [down, List.mem_reverse, List.mem_map, List.mem_range]
  constructor
  · rintro ⟨k, hk, rfl⟩
    omega
  · rintro ⟨hl, hm⟩
    exact ⟨n - least, by omega, by omega⟩

theorem down_succ (n : Nat) : down 1 (n + 1) = (n + 1) :: down 1 n := by
  simp [down, List.range_succ]

theorem afterGroups?_eq_some {sizes : List Nat} {cs rest : List Char}
    (h : afterGroups? sizes cs = some rest) : ∃ taken, cs = taken ++ rest ∧ '/' ∉ taken := by
  have hdigit : ∀ group : List Char, (group.all fun c => (hexValue? c).isSome) = true →
      '/' ∉ group := by
    intro group hall hm
    exact absurd (List.all_eq_true.mp hall _ hm) (by decide)
  induction sizes generalizing cs with
  | nil =>
    cases h
    exact ⟨[], rfl, List.not_mem_nil⟩
  | cons n more ih =>
    unfold afterGroups? at h
    dsimp only at h
    split at h
    · next hgroup =>
      have hs := hdigit _ hgroup.2
      split at h
      · next k ks after hdrop =>
        obtain ⟨taken, rfl, ht⟩ := ih h
        refine ⟨cs.take n ++ '-' :: taken, ?_, by simp [hs, ht]⟩
        rw [List.append_assoc, List.cons_append, ← hdrop, List.take_append_drop]
      · next hdrop =>
        obtain ⟨taken, he, ht⟩ := ih h
        refine ⟨cs.take n ++ taken, ?_, by simp [hs, ht]⟩
        rw [List.append_assoc, ← he, List.take_append_drop]
    · cases h

theorem of_mem_take {p : Char → Bool} {cs : List Char} {n : Nat}
    (hn : n ≤ (cs.takeWhile p).length) {c : Char} (hc : c ∈ cs.take n) : p c = true := by
  have hcs : cs.take n = (cs.takeWhile p).take n := by
    conv_lhs => rw [← List.takeWhile_append_dropWhile (p := p) (l := cs)]
    exact List.take_append_of_le_length hn
  rw [hcs] at hc
  exact List.all_eq_true.mp List.all_takeWhile c (List.mem_of_mem_take hc)

/-- What a parameter may take of some text. -/
def Takes (kind : Kind) (taken : List Char) : Prop :=
  ∃ cs, ∃ n ∈ kind.lengths cs, taken = cs.take n

theorem Takes.slash_notMem {kind : Kind} {taken : List Char} (h : kind.Takes taken)
    (hk : kind ≠ .path) : '/' ∉ taken := by
  obtain ⟨cs, n, hn, rfl⟩ := h
  have hdigits : ∀ {cs : List Char} {n : Nat}, n ≤ (cs.takeWhile Char.isDigit).length →
      '/' ∉ cs.take n := fun hn hm => absurd (of_mem_take hn hm) (by decide)
  cases kind with
  | segment => exact fun hm => absurd (of_mem_take (mem_down_iff.mp hn).2 hm) (by decide)
  | path => exact absurd rfl hk
  | whole => exact hdigits (mem_down_iff.mp hn).2
  | decimal =>
    simp only [lengths] at hn
    split at hn
    · cases hn
    rcases List.mem_append.mp hn with hn | hn
    · rw [mem_down_iff] at hn
      obtain ⟨j, rfl⟩ := Nat.exists_eq_add_of_le (Nat.le_of_succ_le hn.1)
      split at hn
      · next rest hdot =>
        intro hm
        rw [Nat.add_assoc, List.take_add, Nat.add_comm 1, hdot, List.take_succ_cons] at hm
        rcases List.mem_append.mp hm with hm | hm
        · exact hdigits le_rfl hm
        rcases List.mem_cons.mp hm with hm | hm
        · cases hm
        · exact hdigits (by omega) hm
      · omega
    · exact hdigits (mem_down_iff.mp hn).2
  | uuid =>
    simp only [lengths] at hn
    split at hn
    · next rest hrest =>
      obtain ⟨taken, rfl, ht⟩ := afterGroups?_eq_some hrest
      rw [List.mem_singleton.mp hn]
      simpa using ht
    · cases hn
  | unknown => cases hn

def sample : Kind → List Char
  | .segment => ['x']
  | .whole | .decimal => ['0']
  | .uuid => List.replicate 32 '0'
  | .path | .unknown _ => []

theorem length_sample_mem {kind : Kind} (h : ∀ name, kind ≠ .unknown name) (cs : List Char) :
    kind.sample.length ∈ kind.lengths (kind.sample ++ cs) := by
  cases kind with
  | segment => exact mem_down_iff.mpr ⟨le_rfl, by simp [sample]⟩
  | path => exact mem_down_iff.mpr ⟨le_rfl, Nat.zero_le _⟩
  | whole => exact mem_down_iff.mpr ⟨le_rfl, by simp [sample]⟩
  | decimal =>
    simp only [lengths]
    have hn : 1 ≤ ((sample .decimal ++ cs).takeWhile Char.isDigit).length := by simp [sample]
    rw [if_neg (by omega)]
    exact List.mem_append_right _ (mem_down_iff.mpr ⟨le_rfl, hn⟩)
  | uuid =>
    have hg : afterGroups? [8, 4, 4, 4, 12] (sample .uuid ++ cs) = some cs := rfl
    simp [lengths, hg]
  | unknown name => exact absurd rfl (h name)

theorem takes_sample {kind : Kind} (h : ∀ name, kind ≠ .unknown name) :
    kind.Takes kind.sample := by
  refine ⟨kind.sample ++ [], kind.sample.length, length_sample_mem h [], ?_⟩
  rw [List.append_nil, List.take_length]

end Kind

namespace Template

/-- A text that a template takes, and the values that its parameters get. -/
inductive Fits : Template → List Char → List (String × String) → Prop where
  | nil : Fits [] [] []
  | char {t cs found} (c : Char) (h : Fits t cs found) : Fits (.char c :: t) (c :: cs) found
  | parameter {name kind t taken cs found} (ht : kind.Takes taken) (h : Fits t cs found) :
      Fits (.parameter name kind :: t) (taken ++ cs) ((name, String.ofList taken) :: found)

theorem Fits.names {t : Template} {cs : List Char} {found : List (String × String)}
    (h : Fits t cs found) : found.map Prod.fst = t.names := by
  induction h with
  | nil => rfl
  | char c h ih => exact ih
  | parameter ht h ih => exact congrArg (List.cons _) ih

/-- Paths that fit have the slashes of the template, if no parameter takes whole paths. -/
theorem Fits.count_slash {t : Template} {cs : List Char} {found : List (String × String)}
    (h : Fits t cs found) (ht : ∀ name, .parameter name .path ∉ t) :
    cs.count '/' = t.count (.char '/') := by
  induction h with
  | nil => rfl
  | @char t cs found c h ih =>
    have ih := ih fun name hm => ht name (List.mem_cons_of_mem _ hm)
    simp [List.count_cons, ih]
  | @parameter name kind t taken cs found htakes h ih =>
    have ih := ih fun name hm => ht name (List.mem_cons_of_mem _ hm)
    have hk : kind ≠ .path := by
      rintro rfl
      exact ht name List.mem_cons_self
    rw [List.count_append, List.count_eq_zero.mpr (htakes.slash_notMem hk), ih]
    simp

theorem exists_fits_of_matchFrom?_append {t u : Template} {cs : List Char}
    {found : List (String × String)} (h : matchFrom? (t ++ u) cs = some found) :
    ∃ front rest before after, cs = front ++ rest ∧ Fits t front before ∧
      matchFrom? u rest = some after ∧ found = before ++ after := by
  induction t generalizing cs found with
  | nil => exact ⟨[], cs, [], found, rfl, .nil, h, rfl⟩
  | cons p t ih =>
    cases p with
    | char d =>
      cases cs with
      | nil => cases h
      | cons c cs =>
        rw [List.cons_append, matchFrom?] at h
        split at h
        · next hc =>
          obtain ⟨front, rest, before, after, rfl, hf, hr, rfl⟩ := ih h
          exact ⟨c :: front, rest, before, after, rfl, hc ▸ hf.char c, hr, rfl⟩
        · cases h
    | parameter name kind =>
      rw [List.cons_append, matchFrom?] at h
      obtain ⟨n, hn, hmatch⟩ := List.exists_of_findSome?_eq_some h
      obtain ⟨more, hmore, rfl⟩ := Option.map_eq_some_iff.mp hmatch
      obtain ⟨front, rest, before, after, hcs, hf, hr, rfl⟩ := ih hmore
      refine ⟨cs.take n ++ front, rest, _, after, ?_, hf.parameter ⟨cs, n, hn, rfl⟩, hr, rfl⟩
      rw [List.append_assoc, ← hcs, List.take_append_drop]

def sample (t : Template) : List Char :=
  t.flatMap fun
    | .char c => [c]
    | .parameter _ kind => kind.sample

theorem exists_fits_sample {t : Template} (ht : ∀ name kind, .parameter name (.unknown kind) ∉ t) :
    ∃ found, Fits t (sample t) found := by
  induction t with
  | nil => exact ⟨[], .nil⟩
  | cons p t ih =>
    obtain ⟨found, hfits⟩ := ih fun name kind hm => ht name kind (List.mem_cons_of_mem _ hm)
    cases p with
    | char c => exact ⟨found, hfits.char c⟩
    | parameter name kind =>
      have hkind : ∀ other, kind ≠ .unknown other := fun other he =>
        ht name other (he ▸ List.mem_cons_self)
      exact ⟨_, hfits.parameter (Kind.takes_sample hkind)⟩

theorem exists_matchFrom?_sample {t u : Template} {cs : List Char}
    (ht : ∀ name kind, .parameter name (.unknown kind) ∉ t)
    (h : ∃ found, matchFrom? u cs = some found) :
    ∃ found, matchFrom? (t ++ u) (sample t ++ cs) = some found := by
  induction t with
  | nil => exact h
  | cons p t ih =>
    obtain ⟨found, hfound⟩ := ih fun name kind hm => ht name kind (List.mem_cons_of_mem _ hm)
    cases p with
    | char c =>
      refine ⟨found, ?_⟩
      show matchFrom? (.char c :: (t ++ u)) (c :: (sample t ++ cs)) = _
      rw [matchFrom?, if_pos rfl, hfound]
    | parameter name kind =>
      have hkind : ∀ other, kind ≠ .unknown other := fun other he =>
        ht name other (he ▸ List.mem_cons_self)
      have hn := Kind.length_sample_mem hkind (sample t ++ cs)
      show ∃ found, matchFrom? (.parameter name kind :: (t ++ u))
        (kind.sample ++ sample t ++ cs) = _
      rw [List.append_assoc, matchFrom?, ← Option.isSome_iff_exists, List.findSome?_isSome_iff]
      refine ⟨_, hn, ?_⟩
      rw [List.drop_left, hfound]
      rfl

def plain (word : List Char) : Template := word.map .char

theorem Fits.eq_of_plain {word cs : List Char} {found : List (String × String)}
    (h : Fits (plain word) cs found) : cs = word := by
  induction word generalizing cs with
  | nil =>
    cases h
    rfl
  | cons c word ih =>
    cases h with
    | char _ h => rw [ih h]

theorem sample_plain (word : List Char) : sample (plain word) = word := by
  simp [sample, plain, List.flatMap_map]

theorem matchFrom?_plain_append_iff {word cs : List Char} {t : Template}
    {found : List (String × String)} :
    matchFrom? (plain word ++ t) cs = some found ↔
      ∃ rest, cs = word ++ rest ∧ matchFrom? t rest = some found := by
  induction word generalizing cs with
  | nil => simp [plain]
  | cons d word ih =>
    cases cs with
    | nil => simp [plain, matchFrom?]
    | cons c cs =>
      show (if c = d then matchFrom? (plain word ++ t) cs else none) = _ ↔ _
      by_cases hc : c = d
      · subst hc
        simp [ih]
      · simp [hc]

theorem matchFrom?_nil_iff {cs : List Char} {found : List (String × String)} :
    matchFrom? [] cs = some found ↔ (cs = [] ∨ cs = ['\n']) ∧ found = [] := by
  cases cs with
  | nil => simp [matchFrom?, eq_comm]
  | cons c cs => simp [matchFrom?, eq_comm]

theorem matchFrom?_segment_iff {name : String} {cs : List Char} {found : List (String × String)} :
    matchFrom? [.parameter name .segment] cs = some found ↔
      cs ≠ [] ∧ '/' ∉ cs ∧ found = [(name, String.ofList cs)] := by
  by_cases hs : '/' ∈ cs
  · -- Whatever the parameter takes, the slash is left over.
    simp only [hs, not_true, false_and, and_false, iff_false]
    intro h
    rw [matchFrom?] at h
    obtain ⟨n, hn, hmatch⟩ := List.exists_of_findSome?_eq_some h
    obtain ⟨more, hmore, -⟩ := Option.map_eq_some_iff.mp hmatch
    have htaken : '/' ∉ cs.take n := Kind.Takes.slash_notMem ⟨cs, n, hn, rfl⟩ nofun
    have hrest : '/' ∉ cs.drop n := by
      rcases (matchFrom?_nil_iff.mp hmore).1 with he | he <;> rw [he] <;> decide
    rw [← List.take_append_drop n cs, List.mem_append] at hs
    exact hs.elim htaken hrest
  · have hall : cs.takeWhile (· != '/') = cs :=
      List.takeWhile_eq_self_iff.mpr (ne_of_notMem hs)
    cases cs with
    | nil => simp [matchFrom?, Kind.lengths, Kind.down]
    | cons c cs =>
      rw [matchFrom?, Kind.lengths, hall, List.length_cons, Kind.down_succ, List.findSome?_cons]
      have hend : (c :: cs).drop (cs.length + 1) = [] := List.drop_length
      have hwhole : (c :: cs).take (cs.length + 1) = c :: cs :=
        List.take_length (l := c :: cs)
      rw [hend, hwhole]
      simp [matchFrom?, hs, eq_comm]

section Cut

variable {p : Char → Bool} (hp : p '/' = false) (cs rest : List Char)
include hp

theorem takeWhile_append_slash : (cs ++ '/' :: rest).takeWhile p = cs.takeWhile p := by
  induction cs with
  | nil => simp [hp]
  | cons c cs ih => by_cases hc : p c <;> simp [hc, ih]

theorem dropWhile_append_slash :
    (cs ++ '/' :: rest).dropWhile p = cs.dropWhile p ++ '/' :: rest := by
  induction cs with
  | nil => simp [hp]
  | cons c cs ih => by_cases hc : p c <;> simp [hc, ih]

end Cut

theorem splitName?_append_slash (cs rest : List Char) :
    splitName? (cs ++ '/' :: rest) =
      (splitName? cs).map fun (name, after) => (name, after ++ '/' :: rest) := by
  cases cs with
  | nil => rfl
  | cons c cs =>
    rw [List.cons_append, splitName?, splitName?, takeWhile_append_slash rfl,
      dropWhile_append_slash rfl]
    split <;> rfl

/-- A parameter ends before the next slash. -/
theorem parameter?_append_slash (cs rest : List Char) :
    parameter? (cs ++ '/' :: rest) =
      (parameter? cs).map fun (p, after) => (p, after ++ '/' :: rest) := by
  unfold parameter?
  rw [splitName?_append_slash]
  cases splitName? cs with
  | none => rfl
  | some found =>
    obtain ⟨name, after⟩ := found
    cases after with
    | nil => rfl
    | cons c after =>
      by_cases hclose : c = '\x7d'
      · subst hclose
        rfl
      by_cases hcolon : c = ':'
      · subst hcolon
        simp only [Option.map_some, List.cons_append]
        rw [splitName?_append_slash]
        cases splitName? after with
        | none => rfl
        | some found =>
          obtain ⟨kind, more⟩ := found
          cases more with
          | nil => rfl
          | cons c more =>
            by_cases hclose : c = '\x7d'
            · subst hclose
              rfl
            · simp [hclose]
      · simp [hclose, hcolon]

theorem partsFrom_append_slash {skipped : Nat} {cs : List Char} (h : skipped ≤ cs.length)
    (rest : List Char) :
    partsFrom skipped (cs ++ '/' :: rest) =
      partsFrom skipped cs ++ partsFrom 0 ('/' :: rest) := by
  induction cs generalizing skipped with
  | nil =>
    obtain rfl := Nat.le_zero.mp h
    rfl
  | cons c cs ih =>
    cases skipped with
    | succ skipped => exact ih (Nat.le_of_succ_le_succ h)
    | zero =>
      rw [List.cons_append, partsFrom, partsFrom]
      by_cases hc : c = '\x7b'
      · rw [if_pos hc, if_pos hc, parameter?_append_slash]
        cases parameter? cs with
        | none => exact congrArg (List.cons _) (ih (Nat.zero_le _))
        | some found =>
          obtain ⟨p, after⟩ := found
          have hskip : (cs ++ '/' :: rest).length - (after ++ '/' :: rest).length =
              cs.length - after.length := by
            simp only [List.length_append]
            omega
          simp only [Option.map_some, hskip, List.cons_append]
          rw [ih (Nat.sub_le ..)]
      · rw [if_neg hc, if_neg hc]
        exact congrArg (List.cons _) (ih (Nat.zero_le _))

theorem ofPath_of_plain {path : String} (h : '\x7b' ∉ path.toList) :
    ofPath path = plain path.toList := by
  have hparts : ∀ cs : List Char, '\x7b' ∉ cs → partsFrom 0 cs = plain cs := by
    intro cs hcs
    induction cs with
    | nil => rfl
    | cons c cs ih =>
      rw [List.mem_cons, not_or] at hcs
      rw [partsFrom, if_neg (Ne.symm hcs.1), ih hcs.2]
      rfl
  exact hparts _ h

/-- A path that goes on at a slash goes on as a template of its own. -/
theorem ofPath_append {root tail : String} (h : tail.toList.head? = some '/') :
    ofPath (root ++ tail) = ofPath root ++ ofPath tail := by
  obtain ⟨rest, hrest⟩ := List.head?_eq_some_iff.mp h
  unfold ofPath
  rw [String.toList_append, hrest, partsFrom_append_slash (Nat.zero_le _)]

structure Sound (t : Template) : Prop where
  known : ∀ name kind, .parameter name (.unknown kind) ∉ t
  nodup : t.names.Nodup

theorem sound_of_objection? {path : String} (h : objection? path = none) : (ofPath path).Sound := by
  unfold objection? at h
  dsimp only at h
  split at h
  · cases h
  · next hunknown hrepeated =>
    constructor
    · intro name kind hm
      exact absurd (List.findSome?_eq_none_iff.mp hunknown _ hm) (by simp)
    · rw [List.nodup_iff_count_le_one]
      intro name
      by_contra hcount
      have hmem : name ∈ (ofPath path).names := List.count_pos_iff.mp (by omega)
      have hnot := List.filter_eq_nil_iff.mp hrepeated name (List.mem_eraseDups.mpr hmem)
      simp only [decide_eq_true_eq] at hnot
      omega
  · cases h

end Template

end TenantGateway.Http
