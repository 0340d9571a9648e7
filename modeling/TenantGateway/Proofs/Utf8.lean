import Mathlib.Tactic.SplitIfs
import TenantGateway.Text.Utf8

/-! # Laws of UTF-8

What is written is read back, character by character, whatever follows. Reading finds no more pieces
than there are bytes, for a byte that cuts one piece short begins another.
-/
namespace TenantGateway.Text.Utf8

variable {surrogates : Bool}

theorem run_cons (state : State) (b : UInt8) (bs : Bytes) :
    run surrogates state (b :: bs) =
      (next surrogates state b.toNat).1 ++ run surrogates (next surrogates state b.toNat).2 bs := by
  cases state <;> rfl

theorem toNat_range (c : Char) :
    c.toNat < 0xD800 ∨ 0xDFFF < c.toNat ∧ c.toNat < 0x110000 := by
  have h := c.valid
  simp only [UInt32.isValidChar, Nat.isValidChar] at h
  exact h

theorem charOf_toNat (c : Char) : charOf c.toNat = c := by
  have hc := toNat_range c
  rw [charOf, if_neg (by omega), Char.ofNat_toNat]

theorem toNat_byte {n : Nat} (h : n < 256) : (UInt8.ofNat n).toNat = n :=
  UInt8.toNat_ofNat_of_lt' h

theorem run_byte {state after : State} {pieces : List Piece} {n : Nat}
    (h : next surrogates state n = (pieces, after)) (hn : n < 256) (bs : Bytes) :
    run surrogates state (UInt8.ofNat n :: bs) = pieces ++ run surrogates after bs := by
  rw [run_cons, toNat_byte hn, h]

theorem next_tail {owed lo hi value width b : Nat} (ho : 1 < owed) (hlo : lo ≤ b) (hhi : b ≤ hi) :
    next surrogates (.inside owed lo hi value width) b =
      ([], .inside (owed - 1) 0x80 0xBF (value * 64 + (b - 0x80)) (width + 1)) := by
  simp only [next, hlo, hhi, and_self, if_true, Nat.not_le.mpr ho, if_false]

theorem next_last {lo hi value width b : Nat} (hlo : lo ≤ b) (hhi : b ≤ hi) :
    next surrogates (.inside 1 lo hi value width) b =
      ([.char (charOf (value * 64 + (b - 0x80))) (width + 1)], .start) := by
  simp only [next, hlo, hhi, and_self, if_true, Nat.le_refl]

variable {n : Nat} (rest : Bytes)

theorem run_one (h : n < 0x80) :
    run surrogates .start (UInt8.ofNat n :: rest) =
      .char (Char.ofNat n) 1 :: run surrogates .start rest := by
  have hf : next surrogates .start n = ([.char (Char.ofNat n) 1], .start) := by
    rw [next, first, if_pos h]
  rw [run_byte hf (by omega)]
  rfl

theorem run_two (hlo : 0x80 ≤ n) (hhi : n < 0x800) :
    run surrogates .start (UInt8.ofNat (0xC0 + n / 64) :: UInt8.ofNat (0x80 + n % 64) :: rest) =
      .char (charOf n) 2 :: run surrogates .start rest := by
  have hf : next surrogates .start (0xC0 + n / 64) = ([], .inside 1 0x80 0xBF (n / 64) 1) := by
    rw [next, first, if_neg (by omega), if_neg (by omega), if_pos (by omega),
      Nat.add_sub_cancel_left]
  have hn : n / 64 * 64 + (0x80 + n % 64 - 0x80) = n := by omega
  rw [run_byte hf (by omega), run_byte (next_last (by omega) (by omega)) (by omega), hn]
  rfl

/-- The second byte is bounded so that the character is not too low, nor half of a pair. -/
theorem run_three (hlo : 0x800 ≤ n) (hhi : n < 0x10000) (hv : n < 0xD800 ∨ 0xDFFF < n) :
    run surrogates .start (UInt8.ofNat (0xE0 + n / 4096) :: UInt8.ofNat (0x80 + n / 64 % 64) ::
        UInt8.ofNat (0x80 + n % 64) :: rest) =
      .char (charOf n) 3 :: run surrogates .start rest := by
  have hf : next surrogates .start (0xE0 + n / 4096) =
      ([], .inside 2 (if 0xE0 + n / 4096 = 0xE0 then 0xA0 else 0x80)
        (if 0xE0 + n / 4096 = 0xED then 0x9F else 0xBF) (n / 4096) 1) := by
    rw [next, first, if_neg (by omega), if_neg (by omega), if_neg (by omega), if_pos (by omega),
      Nat.add_sub_cancel_left]
  have ht : 0x80 + n / 64 % 64 - 0x80 = n / 64 % 64 := by omega
  have hn : (n / 4096 * 64 + n / 64 % 64) * 64 + (0x80 + n % 64 - 0x80) = n := by omega
  rw [run_byte hf (by omega),
    run_byte (next_tail (by omega) (by split <;> omega) (by split <;> omega)) (by omega), ht,
    run_byte (next_last (by omega) (by omega)) (by omega), hn]
  rfl

theorem run_four (hlo : 0x10000 ≤ n) (hhi : n < 0x110000) :
    run surrogates .start (UInt8.ofNat (0xF0 + n / 262144) :: UInt8.ofNat (0x80 + n / 4096 % 64) ::
        UInt8.ofNat (0x80 + n / 64 % 64) :: UInt8.ofNat (0x80 + n % 64) :: rest) =
      .char (charOf n) 4 :: run surrogates .start rest := by
  have hf : next surrogates .start (0xF0 + n / 262144) =
      ([], .inside 3 (if 0xF0 + n / 262144 = 0xF0 then 0x90 else 0x80)
        (if 0xF0 + n / 262144 = 0xF4 then 0x8F else 0xBF) (n / 262144) 1) := by
    rw [next, first, if_neg (by omega), if_neg (by omega), if_neg (by omega), if_neg (by omega),
      if_pos (by omega), Nat.add_sub_cancel_left]
  have hs : 0x80 + n / 4096 % 64 - 0x80 = n / 4096 % 64 := by omega
  have ht : 0x80 + n / 64 % 64 - 0x80 = n / 64 % 64 := by omega
  have hn : ((n / 262144 * 64 + n / 4096 % 64) * 64 + n / 64 % 64) * 64 +
      (0x80 + n % 64 - 0x80) = n := by
    omega
  rw [run_byte hf (by omega),
    run_byte (next_tail (by omega) (by split <;> omega) (by split <;> omega)) (by omega), hs,
    run_byte (next_tail (by omega) (by omega) (by omega)) (by omega), ht,
    run_byte (next_last (by omega) (by omega)) (by omega), hn]
  rfl

theorem run_encodeChar (c : Char) (rest : Bytes) :
    run surrogates .start (encodeChar c ++ rest) =
      .char c (encodeChar c).length :: run surrogates .start rest := by
  have hc := toNat_range c
  have hv := charOf_toNat c
  simp only [encodeChar]
  by_cases h1 : c.toNat < 0x80
  · simp only [h1, if_true]
    rw [List.cons_append, List.nil_append, run_one rest h1, Char.ofNat_toNat]
    rfl
  by_cases h2 : c.toNat < 0x800
  · simp only [h1, h2, if_true, if_false, List.cons_append, List.nil_append]
    rw [run_two rest (by omega) h2, hv]
    rfl
  by_cases h3 : c.toNat < 0x10000
  · simp only [h1, h2, h3, if_true, if_false, List.cons_append, List.nil_append]
    rw [run_three rest (by omega) h3 (by omega), hv]
    rfl
  · simp only [h1, h2, h3, if_false, List.cons_append, List.nil_append]
    rw [run_four rest (by omega) (by omega), hv]
    rfl

theorem pieces_encode (cs : List Char) :
    pieces surrogates (cs.flatMap encodeChar) = cs.map fun c => .char c (encodeChar c).length := by
  rw [pieces]
  induction cs with
  | nil => rfl
  | cons c cs ih => rw [List.flatMap_cons, run_encodeChar, ih, List.map_cons]

theorem decodeLossy_flatMap (cs : List Char) :
    decodeLossy (cs.flatMap encodeChar) = String.ofList cs := by
  rw [decodeLossy, pieces_encode, List.map_map]
  congr 1
  exact List.map_id _

theorem decodeLossy_encode (s : String) : decodeLossy (encode s) = s := by
  rw [encode, decodeLossy_flatMap, String.ofList_toList]

/-- A state that bytes lead to when halves of pairs are not let through. -/
def Proper : State → Prop
  | .start => True
  | .inside _ lo hi _ _ => 0x80 ≤ lo ∧ hi ≤ 0xBF
  | .half => False

/-- The pieces that are begun and not yet told. -/
def pending : State → Nat
  | .start => 0
  | .inside .. => 1
  | .half => 2

theorem first_proper (b : Nat) :
    Proper (first b).2 ∧ (first b).1.length + pending (first b).2 = 1 := by
  unfold first
  split_ifs <;> simp [Proper, pending]

theorem next_proper {state : State} (h : Proper state) (b : Nat) :
    Proper (next false state b).2 ∧
      (next false state b).1.length + pending (next false state b).2 ≤ pending state + 1 := by
  have hf := first_proper b
  cases state with
  | start => exact ⟨hf.1, Nat.le_of_eq hf.2⟩
  | inside owed lo hi value width =>
    simp only [next, Bool.false_eq_true, false_and, if_false]
    split_ifs
    · exact ⟨trivial, by simp [pending]⟩
    · exact ⟨⟨by decide, by decide⟩, by simp [pending]⟩
    · refine ⟨hf.1, ?_⟩
      show (first b).1.length + 1 + pending (first b).2 ≤ 2
      omega
  | half => exact absurd h id

/-- No more than `k` pieces are in `bs`, but for the one that may be begun before. -/
def AtMost (k : Nat) (bs : Bytes) : Prop :=
  ∀ state, Proper state → (run false state bs).length ≤ pending state + k

namespace AtMost

variable {k : Nat} {bs : Bytes}

theorem nil : AtMost 0 [] := by
  intro state h
  cases state with
  | start => exact Nat.le_refl _
  | inside => exact Nat.le_refl _
  | half => exact absurd h id

theorem mono {m : Nat} (h : AtMost k bs) (hk : k ≤ m) : AtMost m bs := by
  intro state hs
  exact Nat.le_trans (h state hs) (Nat.add_le_add_left hk _)

theorem cons (h : AtMost k bs) (b : UInt8) : AtMost (k + 1) (b :: bs) := by
  intro state hs
  obtain ⟨hp, hl⟩ := next_proper hs b.toNat
  have hr := h _ hp
  rw [run_cons, List.length_append]
  omega

theorem exists_encodeChar_cons (c : Char) :
    ∃ b bs, encodeChar c = b :: bs ∧ (b.toNat < 0x80 ∨ 0xBF < b.toNat) := by
  have hc := toNat_range c
  simp only [encodeChar]
  split_ifs with h1 h2 h3
  · exact ⟨_, _, rfl, .inl (by rwa [toNat_byte (by omega)])⟩
  · exact ⟨_, _, rfl, .inr (by rw [toNat_byte (by omega)]; omega)⟩
  · exact ⟨_, _, rfl, .inr (by rw [toNat_byte (by omega)]; omega)⟩
  · exact ⟨_, _, rfl, .inr (by rw [toNat_byte (by omega)]; omega)⟩

theorem run_inside_encodeChar {owed lo hi value width : Nat} (hlo : 0x80 ≤ lo) (hhi : hi ≤ 0xBF)
    (c : Char) (rest : Bytes) :
    run false (.inside owed lo hi value width) (encodeChar c ++ rest) =
      .bad width .badContinuation :: run false .start (encodeChar c ++ rest) := by
  obtain ⟨b, bs, hc, hb⟩ := exists_encodeChar_cons c
  have ht : ¬ (lo ≤ b.toNat ∧ b.toNat ≤ hi) := by omega
  rw [hc, List.cons_append, run_cons, run_cons]
  simp only [next, ht, if_false, Bool.false_eq_true, false_and, List.cons_append]

theorem char (h : AtMost k bs) (c : Char) : AtMost (k + 1) (encodeChar c ++ bs) := by
  intro state hs
  have hr := h .start trivial
  cases state with
  | start =>
    rw [run_encodeChar, List.length_cons]
    omega
  | inside owed lo hi value width =>
    rw [run_inside_encodeChar hs.1 hs.2, run_encodeChar, List.length_cons, List.length_cons]
    simp only [pending] at hr ⊢
    omega
  | half => exact absurd hs id

theorem length_decodeLossy (h : AtMost k bs) : (decodeLossy bs).toList.length ≤ k := by
  have hr := h .start trivial
  rw [decodeLossy, String.toList_ofList, List.length_map]
  simpa [pieces, pending] using hr

end AtMost

end TenantGateway.Text.Utf8
