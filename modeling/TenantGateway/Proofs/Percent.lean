import TenantGateway.Proofs.Utf8
import TenantGateway.Text.Percent

/-! # Laws of percent-encoding

What is encoded is read back, and no mark of a URL is in it. A text that was never encoded stands
for itself as long as two hex digits never follow a `%` in it.
-/
namespace TenantGateway.Text.Percent

open Utf8

/-- Characters that stand for themselves in a URL. -/
def Unreserved (c : Char) : Prop := c.isAlphanum ∨ c ∈ ['_', '.', '-', '~']

instance (c : Char) : Decidable (Unreserved c) := inferInstanceAs (Decidable (_ ∨ _))

inductive Encoded : List Char → Prop where
  | nil : Encoded []
  | plain {c cs} (hc : Unreserved c) : Encoded cs → Encoded (c :: cs)
  | escape {a b cs} (ha : a ∈ "0123456789ABCDEF".toList) (hb : b ∈ "0123456789ABCDEF".toList) :
      Encoded cs → Encoded ('%' :: a :: b :: cs)

theorem Encoded.append {as bs : List Char} (ha : Encoded as) (hb : Encoded bs) :
    Encoded (as ++ bs) := by
  induction ha with
  | nil => exact hb
  | plain hc _ ih => exact .plain hc ih
  | escape hx hy _ ih => exact .escape hx hy ih

/-- The marks that divide a URL are not among its characters. -/
theorem Encoded.notMem {cs : List Char} (h : Encoded cs) {c : Char} (hu : ¬ Unreserved c)
    (hp : c ≠ '%') (hd : c ∉ "0123456789ABCDEF".toList) : c ∉ cs := by
  induction h with
  | nil => exact List.not_mem_nil
  | @plain d cs hc _ ih =>
    intro hm
    rcases List.mem_cons.mp hm with rfl | hm
    · exact hu hc
    · exact ih hm
  | @escape a b cs ha hb _ ih =>
    intro hm
    rcases List.mem_cons.mp hm with rfl | hm
    · exact hp rfl
    rcases List.mem_cons.mp hm with rfl | hm
    · exact hd ha
    rcases List.mem_cons.mp hm with rfl | hm
    · exact hd hb
    · exact ih hm

theorem hexDigit_mem : ∀ n < 16, hexDigit true n ∈ "0123456789ABCDEF".toList := by
  decide

theorem hexValue?_hexDigit : ∀ n < 16, hexValue? (hexDigit true n) = some n := by
  decide

theorem isUnreserved_iff (b : UInt8) : isUnreserved b ↔ Unreserved (Char.ofNat b.toNat) := by
  simp [isUnreserved, Unreserved, or_assoc]

theorem Unreserved.toNat_lt {c : Char} (h : Unreserved c) : c.toNat < 0x80 := by
  rcases h with h | h
  · delta Char.isAlphanum Char.isAlpha Char.isUpper Char.isLower Char.isDigit at h
    simp only [Bool.or_eq_true, Bool.and_eq_true, decide_eq_true_eq, UInt32.le_iff_toNat_le,
      ge_iff_le] at h
    change ((65 ≤ c.toNat ∧ c.toNat ≤ 90) ∨ (97 ≤ c.toNat ∧ c.toNat ≤ 122)) ∨
      (48 ≤ c.toNat ∧ c.toNat ≤ 57) at h
    omega
  · simp only [List.mem_cons, List.not_mem_nil, or_false] at h
    rcases h with rfl | rfl | rfl | rfl <;> decide

theorem encodeChar_of_lt {c : Char} (h : c.toNat < 0x80) :
    encodeChar c = [UInt8.ofNat c.toNat] := by
  simp only [encodeChar, h, if_true]

theorem toNat_ofNat_byte (b : UInt8) : (Char.ofNat b.toNat).toNat = b.toNat := by
  have hb : b.toNat < 256 := UInt8.toNat_lt b
  rw [Char.ofNat, dif_pos (.inl (by omega))]
  rfl

theorem decodeBytes_cons_of_ne {c : Char} (h : c ≠ '%') (rest : List Char) :
    decodeBytes (c :: rest) = encodeChar c ++ decodeBytes rest := by
  rw [decodeBytes]
  rintro a b more rfl
  exact absurd rfl h

theorem decodeBytes_escape {a b : Char} {x y : Nat} (ha : hexValue? a = some x)
    (hb : hexValue? b = some y) (rest : List Char) :
    decodeBytes ('%' :: a :: b :: rest) = UInt8.ofNat (16 * x + y) :: decodeBytes rest := by
  rw [decodeBytes, ha, hb]

/-- Bytes that may stand for themselves: ASCII characters other than `%`. -/
def Plain (safe : UInt8 → Bool) : Prop := ∀ b, safe b → b.toNat < 0x80 ∧ b ≠ 0x25

theorem plain_isUnreserved : Plain isUnreserved := by
  intro b hb
  have hu := (isUnreserved_iff b).mp hb
  have hn := hu.toNat_lt
  rw [toNat_ofNat_byte] at hn
  refine ⟨hn, ?_⟩
  rintro rfl
  exact absurd hb (by decide)

section Decode

variable {safe : UInt8 → Bool} (hs : Plain safe)
include hs

theorem decodeBytes_encodeByte (b : UInt8) (rest : List Char) :
    decodeBytes (encodeByte safe b ++ rest) = b :: decodeBytes rest := by
  have hb : b.toNat < 256 := UInt8.toNat_lt b
  by_cases h : safe b
  · obtain ⟨hn, hp⟩ := hs b h
    have hc : Char.ofNat b.toNat ≠ '%' := by
      intro he
      have ht := congrArg Char.toNat he
      rw [toNat_ofNat_byte] at ht
      exact hp (UInt8.toNat_inj.mp ht)
    rw [encodeByte, if_pos h, List.cons_append, decodeBytes_cons_of_ne hc,
      encodeChar_of_lt (by rwa [toNat_ofNat_byte]), toNat_ofNat_byte, UInt8.ofNat_toNat]
    rfl
  · have hx := hexValue?_hexDigit (b.toNat / 16) (by omega)
    have hy := hexValue?_hexDigit (b.toNat % 16) (by omega)
    have hn : 16 * (b.toNat / 16) + b.toNat % 16 = b.toNat := by omega
    rw [encodeByte, if_neg h]
    show decodeBytes ('%' :: _ :: _ :: rest) = _
    rw [decodeBytes_escape hx hy, hn, UInt8.ofNat_toNat]

theorem decodeBytes_encodeBytes_append (bs : Bytes) (rest : List Char) :
    decodeBytes (encodeBytes safe bs ++ rest) = bs ++ decodeBytes rest := by
  induction bs with
  | nil => rfl
  | cons b bs ih =>
    rw [encodeBytes, List.flatMap_cons, List.append_assoc, decodeBytes_encodeByte hs]
    exact congrArg (List.cons b) ih

end Decode

theorem notMem_encodeBytes {safe : UInt8 → Bool} {c : Char}
    (hs : ∀ b, safe b → Char.ofNat b.toNat ≠ c) (hp : c ≠ '%')
    (hd : c ∉ "0123456789ABCDEF".toList) (bs : Bytes) : c ∉ encodeBytes safe bs := by
  intro hm
  obtain ⟨b, -, hm⟩ := List.mem_flatMap.mp hm
  have hb : b.toNat < 256 := UInt8.toNat_lt b
  unfold encodeByte at hm
  split at hm
  · next h => exact hs b h (List.mem_singleton.mp hm).symm
  · simp only [List.mem_cons, List.not_mem_nil, or_false] at hm
    rcases hm with rfl | rfl | rfl
    · exact hp rfl
    · exact hd (hexDigit_mem _ (by omega))
    · exact hd (hexDigit_mem _ (by omega))

theorem encoded_encodeByte (b : UInt8) : Encoded (encodeByte isUnreserved b) := by
  have hb : b.toNat < 256 := UInt8.toNat_lt b
  by_cases h : isUnreserved b
  · rw [encodeByte, if_pos h]
    exact .plain ((isUnreserved_iff b).mp h) .nil
  · rw [encodeByte, if_neg h]
    exact .escape (hexDigit_mem _ (by omega)) (hexDigit_mem _ (by omega)) .nil

theorem encoded_encodeBytes (bs : Bytes) : Encoded (encodeBytes isUnreserved bs) := by
  induction bs with
  | nil => exact .nil
  | cons b bs ih =>
    rw [encodeBytes, List.flatMap_cons]
    exact (encoded_encodeByte b).append ih

section Segment

variable (s : String)

theorem encoded_encodeSegment : Encoded (encodeSegment s).toList := by
  rw [encodeSegment, String.toList_ofList]
  exact encoded_encodeBytes _

theorem decodeBytes_encodeSegment : decodeBytes (encodeSegment s).toList = encode s := by
  have h := decodeBytes_encodeBytes_append plain_isUnreserved (encode s) []
  rw [List.append_nil, decodeBytes, List.append_nil] at h
  rw [encodeSegment, String.toList_ofList, h]

theorem decode_encodeSegment : decode (encodeSegment s) = s := by
  rw [decode, decodeBytes_encodeSegment, decodeLossy_encode]

variable {s}

theorem encodeSegment_injective {t : String} (h : encodeSegment s = encodeSegment t) : s = t := by
  rw [← decode_encodeSegment s, h, decode_encodeSegment]

theorem mem_encodeSegment {c : Char} (hu : Unreserved c) (hc : c ∈ s.toList) :
    c ∈ (encodeSegment s).toList := by
  have hn : (UInt8.ofNat c.toNat).toNat = c.toNat := toNat_byte (by have := hu.toNat_lt; omega)
  have hb : UInt8.ofNat c.toNat ∈ encode s :=
    List.mem_flatMap.mpr ⟨c, hc, by rw [encodeChar_of_lt hu.toNat_lt]; exact List.mem_cons_self⟩
  rw [encodeSegment, String.toList_ofList]
  refine List.mem_flatMap.mpr ⟨_, hb, ?_⟩
  have hs : isUnreserved (UInt8.ofNat c.toNat) := by
    rwa [isUnreserved_iff, hn, Char.ofNat_toNat]
  rw [encodeByte, if_pos hs, hn, Char.ofNat_toNat]
  exact List.mem_cons_self

end Segment

/-- Two hex digits follow a `%` somewhere. -/
def HasEscape (cs : List Char) : Prop :=
  ∃ before a b after, cs = before ++ '%' :: a :: b :: after ∧ (hexValue? a).isSome ∧
    (hexValue? b).isSome

theorem HasEscape.cons {cs : List Char} (h : HasEscape cs) (c : Char) : HasEscape (c :: cs) := by
  obtain ⟨before, a, b, after, rfl, ha, hb⟩ := h
  exact ⟨c :: before, a, b, after, rfl, ha, hb⟩

theorem HasEscape.of_cons {c : Char} {cs : List Char} (h : HasEscape (c :: cs)) :
    (c = '%' ∧ ∃ a b after, cs = a :: b :: after ∧ (hexValue? a).isSome ∧ (hexValue? b).isSome) ∨
      HasEscape cs := by
  obtain ⟨before, a, b, after, he, ha, hb⟩ := h
  cases before with
  | nil =>
    obtain ⟨rfl, rfl⟩ := List.cons.inj he
    exact .inl ⟨rfl, a, b, after, rfl, ha, hb⟩
  | cons d before =>
    obtain ⟨-, rfl⟩ := List.cons.inj he
    exact .inr ⟨before, a, b, after, rfl, ha, hb⟩

theorem decodeBytes_of_not_hasEscape {cs : List Char} (h : ¬ HasEscape cs) :
    decodeBytes cs = cs.flatMap encodeChar := by
  fun_induction decodeBytes cs with
  | case1 => rfl
  | case2 a b rest x y ha hb ih =>
    exact absurd ⟨[], a, b, rest, rfl, by rw [hb]; rfl, by rw [ha]; rfl⟩ h
  | case3 a b rest hn ih =>
    rw [ih fun he => h (he.cons _)]
    rfl
  | case4 c rest hn ih =>
    rw [ih fun he => h (he.cons _)]
    rfl

theorem atMost_decodeBytes (cs : List Char) : AtMost cs.length (decodeBytes cs) := by
  fun_induction decodeBytes cs with
  | case1 => exact .nil
  | case2 a b rest x y ha hb ih => exact (ih.cons _).mono (by simp only [List.length_cons]; omega)
  | case3 a b rest hn ih => exact ih.cons _
  | case4 c rest hn ih => exact ih.char c

/-- Three characters for at most one. -/
theorem exists_atMost_of_hasEscape {cs : List Char} (h : HasEscape cs) :
    ∃ k < cs.length, AtMost k (decodeBytes cs) := by
  fun_induction decodeBytes cs with
  | case1 =>
    obtain ⟨before, a, b, after, he, -⟩ := h
    cases before <;> cases he
  | case2 a b rest x y ha hb ih =>
    exact ⟨rest.length + 1, by simp only [List.length_cons]; omega,
      (atMost_decodeBytes rest).cons _⟩
  | case3 a b rest hn ih =>
    rcases h.of_cons with ⟨-, _, _, _, he, ha, hb⟩ | h
    · cases he
      obtain ⟨x, hx⟩ := Option.isSome_iff_exists.mp ha
      obtain ⟨y, hy⟩ := Option.isSome_iff_exists.mp hb
      exact absurd hy (hn x y hx)
    · obtain ⟨k, hk, ih⟩ := ih h
      exact ⟨k + 1, Nat.succ_lt_succ hk, ih.cons _⟩
  | case4 c rest hn ih =>
    rcases h.of_cons with ⟨rfl, a, b, after, rfl, -⟩ | h
    · exact absurd rfl (hn a b after rfl)
    · obtain ⟨k, hk, ih⟩ := ih h
      exact ⟨k + 1, Nat.succ_lt_succ hk, ih.char c⟩

/-- A text stands for itself if and only if it has no escape. -/
theorem decode_eq_self_iff {s : String} : decode s = s ↔ ¬ HasEscape s.toList := by
  constructor
  · intro h he
    obtain ⟨k, hk, hm⟩ := exists_atMost_of_hasEscape he
    have hl := hm.length_decodeLossy
    rw [← decode, h] at hl
    omega
  · intro h
    rw [decode, decodeBytes_of_not_hasEscape h, decodeLossy_flatMap, String.ofList_toList]

end TenantGateway.Text.Percent
