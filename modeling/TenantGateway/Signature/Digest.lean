import TenantGateway.Number.Power
import TenantGateway.Text.Utf8

/-! # Digests

The digests SHA-256 and SHA-512. They are one function over words of 32 and of 64 bits; their
constants are the first bits of the fractions of square and cube roots of primes.
-/
namespace TenantGateway.Digest

open Text (Bytes)

def root (k n : Nat) : Nat → Nat → Nat
  | 0, r => r
  | bits + 1, r => root k n bits (if Nat.pow (r + twoPow bits) k ≤ n then r + twoPow bits else r)

def isPrime (n : Nat) : Bool := 2 ≤ n && (List.range n).all fun d => d < 2 || n % d != 0

def primes : List Nat := (List.range 410).filter isPrime

/-- The first `w` bits of the fraction of the `k`-th root of `n`. -/
def fractionBits (w k n : Nat) : BitVec w :=
  BitVec.ofNat w (root k (n * twoPow (k * w)) (w + 5) 0)

/-- Three mixings of a word: rotations to the right, the last one a shift if `shifts`. -/
structure Mixing where
  first : Nat
  second : Nat
  third : Nat
  shifts : Bool

def Mixing.apply {w : Nat} (m : Mixing) (x : BitVec w) : BitVec w :=
  x.rotateRight m.first ^^^ x.rotateRight m.second ^^^
    if m.shifts then x >>> m.third else x.rotateRight m.third

structure Variant (w : Nat) where
  upper : Mixing
  lower : Mixing
  older : Mixing
  newer : Mixing
  start : List (BitVec w)
  constants : List (BitVec w)

def sha256 : Variant 32 where
  upper := ⟨2, 13, 22, false⟩
  lower := ⟨6, 11, 25, false⟩
  older := ⟨7, 18, 3, true⟩
  newer := ⟨17, 19, 10, true⟩
  start := (primes.take 8).map (fractionBits 32 2)
  constants := (primes.take 64).map (fractionBits 32 3)

def sha512 : Variant 64 where
  upper := ⟨28, 34, 39, false⟩
  lower := ⟨14, 18, 41, false⟩
  older := ⟨1, 8, 7, true⟩
  newer := ⟨19, 61, 6, true⟩
  start := (primes.take 8).map (fractionBits 64 2)
  constants := (primes.take 80).map (fractionBits 64 3)

def bigEndian (count n : Nat) : Bytes :=
  (List.range count).reverse.map fun i => UInt8.ofNat (n / twoPow (8 * i))

def ofBigEndian (bs : Bytes) : Nat := bs.foldl (fun n b => n * 256 + b.toNat) 0

/-- The message with a one bit, zeros and its length in bits, a whole number of blocks of `2 * w`
bytes. -/
def pad (w : Nat) (message : Bytes) : Bytes :=
  let block := 2 * w
  let used := (message.length + 1 + w / 4) % block
  message ++ 0x80 :: List.replicate ((block - used) % block) 0 ++
    bigEndian (w / 4) (8 * message.length)

def pieces (size : Nat) : Nat → Bytes → List Bytes
  | 0, _ => []
  | count + 1, bs => bs.take size :: pieces size count (bs.drop size)

/-- `count` more words, each from the sixteen before it; the newest word stands first. -/
def expand {w : Nat} (v : Variant w) : Nat → List (BitVec w) → List (BitVec w)
  | 0, words => words
  | count + 1, words =>
    expand v count ((words.getD 15 0 + v.older.apply (words.getD 14 0) + words.getD 6 0 +
      v.newer.apply (words.getD 1 0)) :: words)

def round {w : Nat} (v : Variant w) (state : List (BitVec w)) (k word : BitVec w) :
    List (BitVec w) :=
  match state with
  | [a, b, c, d, e, f, g, h] =>
    let t := h + v.lower.apply e + ((e &&& f) ^^^ (~~~e &&& g)) + k + word
    let u := v.upper.apply a + ((a &&& b) ^^^ (a &&& c) ^^^ (b &&& c))
    [t + u, a, b, c, d + t, e, f, g]
  | state => state

def absorb {w : Nat} (v : Variant w) (state : List (BitVec w)) (block : Bytes) : List (BitVec w) :=
  let first := ((pieces (w / 8) 16 block).map fun bs => BitVec.ofNat w (ofBigEndian bs)).reverse
  let words := (expand v (v.constants.length - 16) first).reverse
  let final := (v.constants.zip words).foldl (fun s (k, word) => round v s k word) state
  state.zipWith (· + ·) final

def digest {w : Nat} (v : Variant w) (message : Bytes) : Bytes :=
  let padded := pad w message
  let state := (pieces (2 * w) (padded.length / (2 * w)) padded).foldl (absorb v) v.start
  state.flatMap fun word => bigEndian (w / 8) word.toNat

end TenantGateway.Digest
