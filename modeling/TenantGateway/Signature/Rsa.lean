import TenantGateway.Signature.Digest

/-! # RSA signatures

Checking RSA signatures with the padding of PKCS #1, version 1.5.
-/
namespace TenantGateway

open Text (Bytes)

structure RsaKey where
  modulus : Nat
  exponent : Nat
  deriving DecidableEq, Repr

inductive RsaAlgorithm where
  | sha256
  | sha512
  deriving DecidableEq, Repr

namespace RsaAlgorithm

def ofName? : String → Option RsaAlgorithm
  | "RS256" => some .sha256
  | "RS512" => some .sha512
  | _ => none

/-- The digest of a message after the encoding of the digest's name and length. -/
def digestInfo (message : Bytes) : RsaAlgorithm → Bytes
  | .sha256 =>
    [0x30, 0x31, 0x30, 0x0d, 0x06, 0x09, 0x60, 0x86, 0x48, 0x01, 0x65, 0x03, 0x04, 0x02, 0x01,
      0x05, 0x00, 0x04, 0x20] ++ Digest.digest Digest.sha256 message
  | .sha512 =>
    [0x30, 0x51, 0x30, 0x0d, 0x06, 0x09, 0x60, 0x86, 0x48, 0x01, 0x65, 0x03, 0x04, 0x02, 0x03,
      0x05, 0x00, 0x04, 0x40] ++ Digest.digest Digest.sha512 message

end RsaAlgorithm

namespace RsaKey

def size (key : RsaKey) : Nat := key.modulus.log2 / 8 + 1

def powMod (n : Nat) : Nat → Nat → Nat → Nat → Nat
  | 0, _, _, acc => acc
  | bits + 1, base, e, acc =>
    powMod n bits (base * base % n) (e / 2) (if e % 2 = 1 then acc * base % n else acc)

def power (key : RsaKey) (x : Nat) : Nat :=
  powMod key.modulus (key.exponent.log2 + 1) (x % key.modulus) key.exponent (1 % key.modulus)

/-- What a signature opens to: a mark, filling, a zero, and the digest. -/
def padded (key : RsaKey) (info : Bytes) : Bytes :=
  0x00 :: 0x01 :: List.replicate (key.size - info.length - 3) 0xFF ++ 0x00 :: info

def verifies (key : RsaKey) (algorithm : RsaAlgorithm) (message signature : Bytes) : Bool :=
  let info := algorithm.digestInfo message
  let s := Digest.ofBigEndian signature
  signature.length == key.size && s < key.modulus && info.length + 11 ≤ key.size &&
    Digest.bigEndian key.size (key.power s) == key.padded info

end RsaKey

end TenantGateway
