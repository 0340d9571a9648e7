import Mathlib.Data.Nat.ModEq
import Mathlib.Tactic.Ring
import TenantGateway.Signature.Rsa

/-! # Laws of signatures

The bitwise power is the power, so a signature is accepted if and only if its power under the key
spells the padded digest.
-/
namespace TenantGateway

open Text (Bytes)

namespace RsaKey

/-- The invariant of the loop over the bits: the accumulator times the power that is left. -/
theorem powMod_modEq (n bits base e acc : Nat) (h : e < 2 ^ bits) :
    powMod n bits base e acc ≡ acc * base ^ e [MOD n] := by
  induction bits generalizing base e acc with
  | zero =>
    have he : e = 0 := by simpa using h
    simp [powMod, he, Nat.ModEq.refl]
  | succ bits ih =>
    have hlt : e / 2 < 2 ^ bits := by
      rw [pow_succ] at h
      omega
    have hsquare : (base * base % n) ^ (e / 2) ≡ base ^ (2 * (e / 2)) [MOD n] := by
      rw [pow_mul, sq]
      exact (Nat.mod_modEq _ n).pow _
    rw [powMod]
    by_cases hodd : e % 2 = 1
    · rw [if_pos hodd]
      have he : e = 2 * (e / 2) + 1 := by omega
      calc powMod n bits (base * base % n) (e / 2) (acc * base % n)
          ≡ acc * base % n * (base * base % n) ^ (e / 2) [MOD n] := ih _ _ _ hlt
        _ ≡ acc * base * base ^ (2 * (e / 2)) [MOD n] := (Nat.mod_modEq _ n).mul hsquare
        _ = acc * base ^ (2 * (e / 2) + 1) := by ring
        _ = acc * base ^ e := by rw [← he]
    · rw [if_neg hodd]
      have he : e = 2 * (e / 2) := by omega
      calc powMod n bits (base * base % n) (e / 2) acc
          ≡ acc * (base * base % n) ^ (e / 2) [MOD n] := ih _ _ _ hlt
        _ ≡ acc * base ^ (2 * (e / 2)) [MOD n] := hsquare.mul_left acc
        _ = acc * base ^ e := by rw [← he]

theorem powMod_mod (n bits base e acc : Nat) (h : acc % n = acc) :
    powMod n bits base e acc % n = powMod n bits base e acc := by
  induction bits generalizing base e acc with
  | zero => exact h
  | succ bits ih =>
    rw [powMod]
    apply ih
    split
    · exact Nat.mod_mod _ _
    · exact h

theorem power_eq (key : RsaKey) (x : Nat) : key.power x = x ^ key.exponent % key.modulus := by
  have hm := powMod_modEq key.modulus (key.exponent.log2 + 1) (x % key.modulus) key.exponent
    (1 % key.modulus) Nat.lt_log2_self
  have hp : 1 % key.modulus * (x % key.modulus) ^ key.exponent ≡ 1 * x ^ key.exponent
      [MOD key.modulus] := (Nat.mod_modEq _ _).mul ((Nat.mod_modEq _ _).pow _)
  rw [power, ← powMod_mod _ _ _ _ _ (Nat.mod_mod _ _), hm.trans hp, one_mul]

/-- A signature is as long as the modulus and smaller, and its power is the mark, the filling and
the digest of the message; there are at least eight bytes of filling. -/
structure Signs (key : RsaKey) (algorithm : RsaAlgorithm) (message signature : Bytes) : Prop where
  length : signature.length = key.size
  reduced : Digest.ofBigEndian signature < key.modulus
  room : (algorithm.digestInfo message).length + 11 ≤ key.size
  opens : Digest.bigEndian key.size (Digest.ofBigEndian signature ^ key.exponent % key.modulus) =
    key.padded (algorithm.digestInfo message)

theorem verifies_iff {key : RsaKey} {algorithm : RsaAlgorithm} {message signature : Bytes} :
    key.verifies algorithm message signature = true ↔ key.Signs algorithm message signature := by
  simp only [verifies, Bool.and_eq_true, beq_iff_eq, decide_eq_true_eq, power_eq]
  constructor
  · rintro ⟨⟨⟨hl, hr⟩, hs⟩, ho⟩
    exact ⟨hl, hr, hs, ho⟩
  · rintro ⟨hl, hr, hs, ho⟩
    exact ⟨⟨⟨hl, hr⟩, hs⟩, ho⟩

end RsaKey

end TenantGateway
