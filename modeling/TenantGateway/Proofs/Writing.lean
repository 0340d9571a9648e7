import TenantGateway.Http.Body
import TenantGateway.Proofs.Admission

/-! # Texts as they are written

Texts are sequences of Unicode scalar values. Half of a surrogate pair is none of these, but JSON
can spell one on its own, in an escape or in bytes, and bytes in a few charsets can; the replacement
character is then read for it. Where no half stands alone, every text in a value is one that the
text it is read from writes.
-/
namespace TenantGateway

open Text

namespace Json

/-- Whether the halves of surrogate pairs that a text escapes stand in pairs. With `high`, a high
half stands before it. -/
def paired (high : Bool) : List Char → Bool
  | '\\' :: 'u' :: a :: b :: c :: d :: rest =>
    let n := (hex4? a b c d).getD 0
    isLowHalf n == high && paired (isHighHalf n) rest
  | '\\' :: _ :: rest => !high && paired false rest
  | _ :: rest => !high && paired false rest
  | [] => !high

/-- The text of a string from one of its characters on, these characters, and what follows the
closing quote. -/
inductive Written : List Char → List Char → List Char → Prop where
  | done {rest} : Written ('"' :: rest) [] rest
  | plain {c text s rest} (hq : c ≠ '"') (he : c ≠ '\\') (hc : 0x20 ≤ c.toNat)
      (h : Written text s rest) : Written (c :: text) (c :: s) rest
  | letter {e c text s rest} (he : escaped? e = some c) (h : Written text s rest) :
      Written ('\\' :: e :: text) (c :: s) rest
  | code {a b c d x text s rest} (hx : hex4? a b c d = some x.toNat) (h : Written text s rest) :
      Written ('\\' :: 'u' :: a :: b :: c :: d :: text) (x :: s) rest
  | pair {a b c d e f g h n m text s rest} (hn : hex4? a b c d = some n) (hhigh : isHighHalf n)
      (hm : hex4? e f g h = some m) (hlow : isLowHalf m) (ht : Written text s rest) :
      Written ('\\' :: 'u' :: a :: b :: c :: d :: '\\' :: 'u' :: e :: f :: g :: h :: text)
        (joinHalves n m :: s) rest

theorem within_eq_ok_iff {c : Char} {r : Reads (List Char)} {s rest : List Char} :
    within c r = .ok (s, rest) ↔ ∃ t, s = c :: t ∧ r = .ok (t, rest) := by
  cases r with
  | error f => simp [within, Except.map]
  | ok p =>
    obtain ⟨t, more⟩ := p
    simp only [within, Except.map, Except.ok.injEq, Prod.mk.injEq]
    constructor
    · rintro ⟨rfl, rfl⟩
      exact ⟨t, rfl, rfl, rfl⟩
    · rintro ⟨_, rfl, rfl, rfl⟩
      exact ⟨rfl, rfl⟩

theorem hexValue?_lt {c : Char} {n : Nat} (h : hexValue? c = some n) : n < 16 := by
  simp only [hexValue?, Char.le_def, UInt32.le_iff_toNat_le] at h
  split at h
  · next hc =>
    cases h
    have : c.toNat ≤ 57 := hc.2
    omega
  · split at h
    · next hc =>
      cases h
      have : c.toNat ≤ 70 := hc.2
      omega
    · split at h
      · next hc =>
        cases h
        have : c.toNat ≤ 102 := hc.2
        omega
      · cases h

theorem hex4?_lt {a b c d : Char} {n : Nat} (h : hex4? a b c d = some n) : n < 0x10000 := by
  unfold hex4? at h
  split at h
  · next ha hb hc hd =>
    cases h
    have := hexValue?_lt ha
    have := hexValue?_lt hb
    have := hexValue?_lt hc
    have := hexValue?_lt hd
    omega
  · cases h

theorem hex4?_eq_charOf {a b c d : Char} {n : Nat} (h : hex4? a b c d = some n)
    (hhigh : isHighHalf n = false) (hlow : isLowHalf n = false) :
    hex4? a b c d = some (charOf n).toNat := by
  have hlt := hex4?_lt h
  simp only [isHighHalf, isLowHalf, Bool.and_eq_false_iff, decide_eq_false_iff_not] at hhigh hlow
  have hv : n.isValidChar := by
    unfold Nat.isValidChar
    omega
  rw [h, charOf, if_neg (by omega), Char.ofNat, dif_pos hv]
  rfl

theorem not_isHighHalf {n : Nat} (h : isLowHalf n = true) : isHighHalf n = false := by
  simp only [isHighHalf, isLowHalf, Bool.and_eq_true, decide_eq_true_eq, Bool.and_eq_false_iff,
    decide_eq_false_iff_not] at h ⊢
  omega

section Paired

variable {high : Bool} {text : List Char}

theorem paired_code {a b c d : Char} {n : Nat} (h : hex4? a b c d = some n) :
    paired high ('\\' :: 'u' :: a :: b :: c :: d :: text) = true ↔
      isLowHalf n = high ∧ paired (isHighHalf n) text = true := by
  simp only [paired, h, Option.getD_some, Bool.and_eq_true, beq_iff_eq]

theorem paired_letter {e : Char} (he : e ≠ 'u') :
    paired false ('\\' :: e :: text) = paired false text := by
  simp [paired, he]

theorem paired_plain {c : Char} (hc : c ≠ '\\') :
    paired false (c :: text) = paired false text := by
  simp [paired, hc]

theorem not_paired_high (h : ∀ a b c d more, text ≠ '\\' :: 'u' :: a :: b :: c :: d :: more) :
    paired true text = false := by
  unfold paired
  split
  · exact absurd rfl (h _ _ _ _ _)
  all_goals rfl

/-- An escape that is no high half, with what is read after it. -/
theorem written_code {a b c d : Char} {n : Nat} {s rest : List Char} (h : hex4? a b c d = some n)
    (hhigh : isHighHalf n = false)
    (hp : paired false ('\\' :: 'u' :: a :: b :: c :: d :: text) = true)
    (ht : paired false text = true → Written text s rest ∧ paired false rest = true) :
    Written ('\\' :: 'u' :: a :: b :: c :: d :: text) (charOf n :: s) rest ∧
      paired false rest = true := by
  obtain ⟨hlow, hmore⟩ := (paired_code h).mp hp
  rw [hhigh] at hmore
  obtain ⟨hw, hr⟩ := ht hmore
  exact ⟨.code (hex4?_eq_charOf h hhigh hlow) hw, hr⟩

end Paired

/-- In a text whose halves stand in pairs, a string is read as what is written. -/
theorem written_of_string {all text s rest : List Char} (hp : paired false text = true)
    (h : string all text = .ok (s, rest)) : Written text s rest ∧ paired false rest = true := by
  fun_induction string all text generalizing s rest with
  | case2 more =>
    cases h
    exact ⟨.done, by rwa [paired_plain (by decide)] at hp⟩
  | case7 a b c d e f g h' more n hn hh m hm hlow ih =>
    obtain ⟨t, rfl, ht⟩ := within_eq_ok_iff.mp h
    obtain ⟨hhigh, -⟩ := Bool.and_eq_true_iff.mp hh
    obtain ⟨-, hmore⟩ := (paired_code hm).mp ((paired_code hn).mp hp).2
    rw [not_isHighHalf hlow] at hmore
    obtain ⟨hw, hr⟩ := ih hmore ht
    exact ⟨.pair hn hhigh hm hlow hw, hr⟩
  | case8 a b c d e f g h' more n hn hh m hm hlow ih =>
    obtain ⟨hhigh, -⟩ := Bool.and_eq_true_iff.mp hh
    have hm' := ((paired_code hm).mp ((paired_code hn).mp hp).2).1
    rw [hhigh] at hm'
    exact absurd hm' hlow
  | case9 a b c d e f g h' more n hn hh ih =>
    obtain ⟨t, rfl, ht⟩ := within_eq_ok_iff.mp h
    cases hhigh : isHighHalf n with
    | true =>
      have hend : more = [] := by simpa [hhigh] using hh
      subst hend
      simp [string] at ht
    | false => exact written_code hn hhigh hp fun hmore => ih hmore ht
  | case10 a b c d more n hne hno hn ih =>
    obtain ⟨t, rfl, ht⟩ := within_eq_ok_iff.mp h
    cases hhigh : isHighHalf n with
    | true =>
      have hmore := ((paired_code hn).mp hp).2
      rw [hhigh, not_paired_high fun a b c d more he => hno a b c d more he] at hmore
      cases hmore
    | false => exact written_code hn hhigh hp fun hmore => ih hmore ht
  | case12 e more hno hu c he ih =>
    obtain ⟨t, rfl, ht⟩ := within_eq_ok_iff.mp h
    rw [paired_letter hu] at hp
    obtain ⟨hw, hr⟩ := ih hp ht
    exact ⟨.letter he hw, hr⟩
  | case15 c more hq hlast hcode hu he hc ih =>
    obtain ⟨t, rfl, ht⟩ := within_eq_ok_iff.mp h
    have hb : c ≠ '\\' := by
      rintro rfl
      cases more with
      | nil => exact hlast rfl rfl
      | cons e more => exact he e more rfl rfl
    rw [paired_plain hb] at hp
    obtain ⟨hw, hr⟩ := ih hp ht
    exact ⟨.plain hq hb (Nat.le_of_not_lt hc) hw, hr⟩
  | _ => cases h

theorem Written.suffix {text s rest : List Char} (h : Written text s rest) : rest <:+ text := by
  induction h with
  | done => exact List.suffix_cons _ _
  | plain _ _ _ _ ih => exact ih.trans (List.suffix_cons _ _)
  | letter _ _ ih => exact ih.trans ⟨['\\', _], rfl⟩
  | code _ _ ih => exact ih.trans ⟨['\\', 'u', _, _, _, _], rfl⟩
  | pair _ _ _ _ _ ih => exact ih.trans ⟨['\\', 'u', _, _, _, _, '\\', 'u', _, _, _, _], rfl⟩

/-- A string in a text is written so. -/
def Writes (cs : List Char) (s : String) : Prop :=
  ∃ text rest, '"' :: text <:+ cs ∧ Written text s.toList rest

inductive HasText : Json → String → Prop where
  | text {s} : HasText (.str s) s
  | item {vs v s} (hv : v ∈ vs) (h : HasText v s) : HasText (.arr vs) s
  | key {fields s v} (hf : (s, v) ∈ fields) : HasText (.obj fields) s
  | value {fields k v s} (hf : (k, v) ∈ fields) (h : HasText v s) : HasText (.obj fields) s

theorem not_hasText_empty {s : String} : ¬ HasText (.obj []) s := by
  rintro (_ | _ | hf | hf) <;> cases hf

theorem mem_put {key k : String} {value v : Json} {fields : Fields}
    (h : (k, v) ∈ put key value fields) : k = key ∧ v = value ∨ (k, v) ∈ fields := by
  induction fields with
  | nil => exact .inl (Prod.mk.injEq .. ▸ List.mem_singleton.mp h)
  | cons field fields ih =>
    rw [put] at h
    split at h
    · next he =>
      rcases List.mem_cons.mp h with hf | hf
      · cases hf
        exact .inl ⟨he, rfl⟩
      · exact .inr (List.mem_cons_of_mem _ hf)
    · rcases List.mem_cons.mp h with hf | hf
      · exact .inr (hf ▸ List.mem_cons_self)
      · exact (ih hf).imp_right (List.mem_cons_of_mem _)

theorem HasText.of_put {key s : String} {value : Json} {fields : Fields}
    (h : HasText (.obj (put key value fields)) s) :
    s = key ∨ HasText value s ∨ HasText (.obj fields) s := by
  cases h with
  | key hf =>
    rcases mem_put hf with ⟨rfl, -⟩ | hf
    · exact .inl rfl
    · exact .inr (.inr (.key hf))
  | value hf hv =>
    rcases mem_put hf with ⟨-, rfl⟩ | hf
    · exact .inr (.inl hv)
    · exact .inr (.inr (.value hf hv))

/-- What is left of a text where none of its escapes is cut. -/
structure Remains (cs rest : List Char) : Prop where
  suffix : rest <:+ cs
  paired : paired false rest = true

namespace Remains

variable {cs more rest : List Char} {c : Char}

theorem refl (h : Json.paired false cs = true) : Remains cs cs := ⟨List.suffix_refl cs, h⟩

theorem trans (h : Remains cs more) (k : Remains more rest) : Remains cs rest :=
  ⟨k.suffix.trans h.suffix, k.paired⟩

theorem tail (h : Remains cs (c :: rest)) (hc : c ≠ '\\') : Remains cs rest :=
  h.trans ⟨List.suffix_cons c rest, by rw [← paired_plain hc]; exact h.paired⟩

theorem append (word : List Char) (h : Remains cs (word ++ rest)) (hw : '\\' ∉ word) :
    Remains cs rest := by
  induction word with
  | nil => exact h
  | cons c word ih =>
    rw [List.mem_cons, not_or] at hw
    exact ih (h.tail (Ne.symm hw.1)) hw.2

theorem dropWhile {p : Char → Bool} (h : Remains cs rest) (hp : p '\\' = false) :
    Remains cs (rest.dropWhile p) := by
  rw [← List.takeWhile_append_dropWhile (p := p) (l := rest)] at h
  refine h.append _ fun hm => ?_
  have ht : p '\\' = true := List.all_eq_true.mp List.all_takeWhile _ hm
  rw [hp] at ht
  cases ht

theorem gap (h : Remains cs rest) : Remains cs (skipGap rest) := h.dropWhile (by decide)

theorem past (h : Remains cs more) (hm : skipGap more = c :: rest) (hc : c ≠ '\\') :
    Remains cs rest := by
  refine tail ?_ hc
  rw [← hm]
  exact h.gap

theorem wholeOf (h : Remains cs rest) : Remains cs (wholeOf rest).2 := by
  unfold Json.wholeOf
  split
  · exact h.tail (by decide)
  · exact h.dropWhile (by decide)

theorem fractionOf (h : Remains cs rest) : Remains cs (fractionOf rest).2 := by
  unfold Json.fractionOf
  split
  · split
    · exact (h.tail (by decide)).dropWhile (by decide)
    · exact h
  · exact h

theorem splitSign (h : Remains cs rest) : Remains cs (Numeral.splitSign rest).2 := by
  unfold Numeral.splitSign
  split
  · exact h.tail (by decide)
  · exact h.tail (by decide)
  · exact h

theorem exponentOf (h : Remains cs rest) : Remains cs (exponentOf rest).2 := by
  unfold Json.exponentOf
  split
  · next c more =>
    split
    · next hc =>
      have hb : c ≠ '\\' := by rcases hc with rfl | rfl <;> decide
      dsimp only
      split
      · exact h
      · exact (h.tail hb).splitSign.dropWhile (by decide)
    · exact h
  · exact h

theorem numeral {v : Json} (h : Remains cs more) (hn : numeral more = .ok (v, rest)) :
    Remains cs rest ∧ ∀ s, ¬ v.HasText s := by
  unfold Json.numeral at hn
  split at hn
  next negative ds hs =>
  have hds : Remains cs ds := by
    split at hs
    · cases hs
      exact h.tail (by decide)
    · cases hs
      exact h
  split at hn
  · cases hn
  · next whole left hne hw =>
    have hwhole : Remains cs (whole, left).2 := by
      rw [← hw]
      exact hds.wholeOf
    have hleft := hwhole.fractionOf.exponentOf
    dsimp only at hn
    split at hn
    · split at hn <;> cases hn
      exact ⟨hleft, nofun⟩
    · cases hn
      exact ⟨hleft, nofun⟩

theorem string {all s : List Char} (h : Remains cs ('"' :: more))
    (hs : string all more = .ok (s, rest)) : Remains cs rest ∧ Writes cs (String.ofList s) := by
  have ht := h.tail (by decide)
  obtain ⟨hw, hr⟩ := written_of_string ht.paired hs
  exact ⟨ht.trans ⟨hw.suffix, hr⟩, more, rest, h.suffix, by rwa [String.toList_ofList]⟩

end Remains

structure Steady (fuel : Nat) : Prop where
  value : ∀ {room cs more v rest}, Remains cs more → value fuel room more = .ok (v, rest) →
    Remains cs rest ∧ ∀ s, v.HasText s → Writes cs s
  elements : ∀ {room cs more vs rest}, Remains cs more →
    elements fuel room more = .ok (vs, rest) →
      Remains cs rest ∧ ∀ v ∈ vs, ∀ s, v.HasText s → Writes cs s
  members : ∀ {room fields cs more v rest}, Remains cs more →
    members fuel room fields more = .ok (v, rest) →
      Remains cs rest ∧ ∀ s, v.HasText s → HasText (.obj fields) s ∨ Writes cs s

section Steady

variable {fuel room : Nat} {fields : Fields} {cs more rest : List Char} {v : Json}
  {vs : List Json}

theorem steady_value (ih : Steady fuel) (h : Remains cs more)
    (hv : value (fuel + 1) room more = .ok (v, rest)) :
    Remains cs rest ∧ ∀ s, v.HasText s → Writes cs s := by
  unfold value at hv
  split at hv
  · obtain ⟨⟨s, left⟩, hs, he⟩ := Except.map_eq_ok_iff.mp hv
    cases he
    obtain ⟨hr, hw⟩ := h.string hs
    refine ⟨hr, ?_⟩
    rintro _ ⟨⟩
    exact hw
  · have ht := h.tail (by decide)
    split at hv
    · cases hv
    · next hc =>
      cases hv
      exact ⟨ht.past hc (by decide), fun _ hs => absurd hs not_hasText_empty⟩
    · obtain ⟨hr, hw⟩ := ih.members ht.gap hv
      exact ⟨hr, fun s hs => (hw s hs).resolve_left not_hasText_empty⟩
  · have ht := h.tail (by decide)
    split at hv
    · cases hv
    · next hc =>
      cases hv
      refine ⟨ht.past hc (by decide), ?_⟩
      rintro _ (_ | hm)
      cases hm
    · obtain ⟨⟨vs, left⟩, hs, he⟩ := Except.map_eq_ok_iff.mp hv
      cases he
      obtain ⟨hr, hw⟩ := ih.elements ht.gap hs
      refine ⟨hr, ?_⟩
      rintro s (_ | ⟨hm, hs⟩)
      exact hw _ hm s hs
  · cases hv
    exact ⟨h.append ['n', 'u', 'l', 'l'] (by decide), nofun⟩
  · cases hv
    exact ⟨h.append ['t', 'r', 'u', 'e'] (by decide), nofun⟩
  · cases hv
    exact ⟨h.append ['f', 'a', 'l', 's', 'e'] (by decide), nofun⟩
  · cases hv
    exact ⟨h.append ['N', 'a', 'N'] (by decide), nofun⟩
  · cases hv
    exact ⟨h.append ['I', 'n', 'f', 'i', 'n', 'i', 't', 'y'] (by decide), nofun⟩
  · cases hv
    exact ⟨h.append ['-', 'I', 'n', 'f', 'i', 'n', 'i', 't', 'y'] (by decide), nofun⟩
  · obtain ⟨hr, hn⟩ := h.numeral hv
    exact ⟨hr, fun s hs => absurd hs (hn s)⟩

theorem steady_elements (ih : Steady fuel) (h : Remains cs more)
    (hv : elements (fuel + 1) room more = .ok (vs, rest)) :
    Remains cs rest ∧ ∀ v ∈ vs, ∀ s, v.HasText s → Writes cs s := by
  unfold elements at hv
  obtain ⟨⟨v, left⟩, hfirst, hv⟩ := Except.bind_eq_ok_iff.mp hv
  obtain ⟨hl, hw⟩ := ih.value h hfirst
  dsimp only at hv
  split at hv
  · next hc =>
    cases hv
    exact ⟨hl.past hc (by decide), List.forall_mem_singleton.mpr hw⟩
  · next hc =>
    obtain ⟨⟨ws, left⟩, hws, hv⟩ := Except.bind_eq_ok_iff.mp hv
    cases hv
    obtain ⟨hr, hrest⟩ := ih.elements (hl.past hc (by decide)).gap hws
    exact ⟨hr, List.forall_mem_cons.mpr ⟨hw, hrest⟩⟩
  · cases hv

theorem steady_members (ih : Steady fuel) (h : Remains cs more)
    (hv : members (fuel + 1) room fields more = .ok (v, rest)) :
    Remains cs rest ∧ ∀ s, v.HasText s → HasText (.obj fields) s ∨ Writes cs s := by
  unfold members at hv
  split at hv
  · obtain ⟨⟨key, left⟩, hk, hv⟩ := Except.bind_eq_ok_iff.mp hv
    obtain ⟨hl, hkey⟩ := h.string hk
    dsimp only at hv
    split at hv
    · next hc =>
      obtain ⟨⟨w, left⟩, hw, hv⟩ := Except.bind_eq_ok_iff.mp hv
      obtain ⟨hl, hval⟩ := ih.value (hl.past hc (by decide)).gap hw
      have hput : ∀ s, HasText (.obj (put (String.ofList key) w fields)) s →
          HasText (.obj fields) s ∨ Writes cs s := by
        intro s hs
        rcases hs.of_put with rfl | hs | hs
        · exact .inr hkey
        · exact .inr (hval s hs)
        · exact .inl hs
      dsimp only at hv
      split at hv
      · next he =>
        cases hv
        exact ⟨hl.past he (by decide), hput⟩
      · next he =>
        obtain ⟨hr, hmore⟩ := ih.members (hl.past he (by decide)).gap hv
        exact ⟨hr, fun s hs => (hmore s hs).elim (hput s) .inr⟩
      · cases hv
    · cases hv
  · cases hv

theorem steady (fuel : Nat) : Steady fuel := by
  induction fuel with
  | zero => exact ⟨nofun, nofun, nofun⟩
  | succ fuel ih => exact ⟨steady_value ih, steady_elements ih, steady_members ih⟩

end Steady

/-- Every text in a value is written in the text that it is read from. -/
theorem writes_of_parseChars {cs : List Char} {v : Json} {s : String} (hp : paired false cs = true)
    (hv : parseChars cs = .ok v) (hs : v.HasText s) : Writes cs s := by
  unfold parseChars at hv
  dsimp only at hv
  split at hv
  · cases hv
  · cases hv
  · cases hv
  · next hc =>
    have hw := ((steady _).value (Remains.refl hp).gap hc).2
    split at hv
    · cases hv
      exact hw s hs
    · cases hv

theorem writes_of_parse {t s : String} {v : Json} (hp : paired false t.toList = true)
    (hv : parse t = .ok v) (hs : v.HasText s) : Writes t.toList s := by
  unfold parse at hv
  split at hv
  · next hc =>
    rw [hc] at hp ⊢
    split at hv
    · cases hv
    · exact writes_of_parseChars hp hv hs
  · next hc =>
    rw [hc] at hp ⊢
    exact writes_of_parseChars hp hv hs

end Json

def Text.Charset.spellsHalves : Charset → Bool
  | .utf7 | .escapes | .rawEscapes | .punycode => true
  | _ => false

/-- No half of a surrogate pair stands alone in an answer: its bytes spell none in its charset, and
no escape in its text does. -/
structure Response.Paired (r : Response) : Prop where
  bytes : ∀ c s, (charset? r.contentType).bind Charset.ofName? = some c → c.spellsHalves →
    r.text = .ok s → replacement ∉ s.toList
  escapes : ∀ s, r.Spells s → Json.paired false s.toList

theorem Response.paired_of_plain {r : Response} {bs : Bytes} {s : String} (hc : r.contentType = "")
    (hb : r.body = .ok bs) (hs : plainJson? r.contentType bs = some s)
    (hp : Json.paired false s.toList) : r.Paired := by
  constructor
  · intro c s hn
    rw [hc, charset?_empty] at hn
    cases hn
  · intro t ht
    rwa [← (spells_iff_plain hb hs).mp ht]

def Response.Writes (r : Response) (s : String) : Prop :=
  ∃ t, r.Spells t ∧ Json.Writes t.toList s

theorem Response.Paired.writes {r : Response} {v : Json} {s : String} (h : r.Paired)
    (hv : r.json = .ok v) (hs : v.HasText s) : r.Writes s := by
  obtain ⟨t, ht, hp⟩ := json_eq_ok_iff.mp hv
  exact ⟨t, ht, Json.writes_of_parse (h.escapes t ht) hp hs⟩

def Services.AnswersPaired {κ : Type} (s : Services κ) : Prop :=
  ∀ request answer, (s.engine request).outcome = .ok answer → answer.Paired

namespace Http

/-- The characters of a body that is read as JSON, if no bytes in it are half of a surrogate
pair. -/
def Request.characters? (r : Request) : Option (List Char) :=
  let (encoding, skip) := Encoding.ofJson r.body
  (encoding.decode? false skip r.body).toOption

/-- No half of a surrogate pair stands alone in a body that is read as JSON, neither in bytes nor in
an escape. -/
def Request.Paired (r : Request) : Prop :=
  ∀ v, Body.parse r = .ok (.json v) → ∃ cs, decodeJsonText r.body = .ok cs ∧
    r.characters? = some cs ∧ Json.paired false cs

def Request.Writes (r : Request) (s : String) : Prop :=
  ∃ cs, r.characters? = some cs ∧ Json.Writes cs s

theorem Body.parseBytes_of_parse {r : Request} {v : Json} (h : parse r = .ok (.json v)) :
    Json.parseBytes r.body = .ok v := by
  unfold parse at h
  split at h
  · cases h
  · split at h
    · split at h <;> cases h
      assumption
    · cases h

theorem Request.Paired.writes {r : Request} {v : Json} {s : String} (h : r.Paired)
    (hv : Body.parse r = .ok (.json v)) (hs : v.HasText s) : r.Writes s := by
  obtain ⟨cs, hd, hc, hp⟩ := h v hv
  have hb := Body.parseBytes_of_parse hv
  rw [Json.parseBytes, hd] at hb
  exact ⟨cs, hc, Json.writes_of_parseChars hp (Except.mapError_eq_ok_iff.mp hb) hs⟩

end Http

end TenantGateway
