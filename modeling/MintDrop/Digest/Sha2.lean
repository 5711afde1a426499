import MintDrop.Bytes

/-!
# The SHA-2 hashes

`Sha2.sha256` and `Sha2.sha512` are the hashes of FIPS 180-4.  Both are `Sha2.digest` of a `Variant`, which
fixes the width of a word, the constants and the rotations: the message is padded to blocks of sixteen
words, each block is spread into one word for each round, and the rounds stir eight words of state.
-/

namespace MintDrop.Sha2

/-- The eight words that a hash carries from block to block. -/
structure State (width : Nat) where
  a : BitVec width
  b : BitVec width
  c : BitVec width
  d : BitVec width
  e : BitVec width
  f : BitVec width
  g : BitVec width
  h : BitVec width

/-- What distinguishes the hashes of the family.  The sums are given by their three amounts; the last
amount of a schedule sum is a shift, all others are rotations to the right. -/
structure Variant where
  width : Nat
  roundConstants : List (BitVec width)
  initial : State width
  scheduleSum₀ : Nat × Nat × Nat
  scheduleSum₁ : Nat × Nat × Nat
  stateSum₀ : Nat × Nat × Nat
  stateSum₁ : Nat × Nat × Nat

/-! ### Padding -/

/-- The first pieces of a length that a list is cut into. -/
def pieces {α : Type} (size : Nat) : (count : Nat) → List α → List (List α)
  | 0, _ => []
  | count + 1, xs => xs.take size :: pieces size count (xs.drop size)

/-- The message with a one bit, zeros and its length in bits, to a whole number of blocks. -/
def pad (v : Variant) (message : Bytes) : Bytes :=
  let block := 2 * v.width
  let tail := v.width / 4
  let zeros := (block - (message.length + 1 + tail) % block) % block
  message ++ 0x80 :: List.replicate zeros 0 ++ Bytes.ofNatBE tail (8 * message.length)

/-! ### Rounds -/

/-- The exclusive or of two rotations and a shift. -/
def scheduleSum {width : Nat} (amounts : Nat × Nat × Nat) (x : BitVec width) : BitVec width :=
  x.rotateRight amounts.1 ^^^ x.rotateRight amounts.2.1 ^^^ (x >>> amounts.2.2)

/-- The exclusive or of three rotations. -/
def stateSum {width : Nat} (amounts : Nat × Nat × Nat) (x : BitVec width) : BitVec width :=
  x.rotateRight amounts.1 ^^^ x.rotateRight amounts.2.1 ^^^ x.rotateRight amounts.2.2

/-- The word that follows sixteen words in a block's schedule. -/
def nextWord (v : Variant) (window : List (BitVec v.width)) : BitVec v.width :=
  let w (i : Nat) := window.getD i 0
  w 0 + scheduleSum v.scheduleSum₀ (w 1) + w 9 + scheduleSum v.scheduleSum₁ (w 14)

/-- One round with a constant and a word of the schedule. -/
def round (v : Variant) (s : State v.width) (k w : BitVec v.width) : State v.width :=
  let choice := (s.e &&& s.f) ^^^ (~~~s.e &&& s.g)
  let majority := (s.a &&& s.b) ^^^ (s.a &&& s.c) ^^^ (s.b &&& s.c)
  let t := s.h + stateSum v.stateSum₁ s.e + choice + k + w
  ⟨t + (stateSum v.stateSum₀ s.a + majority), s.a, s.b, s.c, s.d + t, s.e, s.f, s.g⟩

/-- The rounds of the constants that are left, with the sixteen words that come next. -/
def rounds (v : Variant) : List (BitVec v.width) → List (BitVec v.width) → State v.width → State v.width
  | [], _, s => s
  | k :: ks, window, s =>
      rounds v ks (window.drop 1 ++ [nextWord v window]) (round v s k (window.headD 0))

/-- The state after a block. -/
def compress (v : Variant) (s : State v.width) (block : Bytes) : State v.width :=
  let words := (pieces (v.width / 8) 16 block).map fun bs => BitVec.ofNat v.width (Bytes.toNatBE bs)
  let t := rounds v v.roundConstants words s
  ⟨s.a + t.a, s.b + t.b, s.c + t.c, s.d + t.d, s.e + t.e, s.f + t.f, s.g + t.g, s.h + t.h⟩

/-- The hash of a message: the eight words of the last state. -/
def digest (v : Variant) (message : Bytes) : Bytes :=
  let padded := pad v message
  let s := (pieces (2 * v.width) (padded.length / (2 * v.width)) padded).foldl (compress v) v.initial
  [s.a, s.b, s.c, s.d, s.e, s.f, s.g, s.h].flatMap fun w => Bytes.ofNatBE (v.width / 8) w.toNat

theorem length_digest (v : Variant) (message : Bytes) :
    (digest v message).length = 8 * (v.width / 8) := by
  simp [digest, Bytes.ofNatBE]
  omega

/-! ### The variants -/

/-- The variant with words of 32 bits: its constants are the first bits after the point of the cube
roots of the first 64 primes and of the square roots of the first eight. -/
def variant256 : Variant where
  width := 32
  roundConstants :=
  [0x428a2f98, 0x71374491, 0xb5c0fbcf, 0xe9b5dba5, 0x3956c25b, 0x59f111f1, 0x923f82a4, 0xab1c5ed5,
   0xd807aa98, 0x12835b01, 0x243185be, 0x550c7dc3, 0x72be5d74, 0x80deb1fe, 0x9bdc06a7, 0xc19bf174,
   0xe49b69c1, 0xefbe4786, 0x0fc19dc6, 0x240ca1cc, 0x2de92c6f, 0x4a7484aa, 0x5cb0a9dc, 0x76f988da,
   0x983e5152, 0xa831c66d, 0xb00327c8, 0xbf597fc7, 0xc6e00bf3, 0xd5a79147, 0x06ca6351, 0x14292967,
   0x27b70a85, 0x2e1b2138, 0x4d2c6dfc, 0x53380d13, 0x650a7354, 0x766a0abb, 0x81c2c92e, 0x92722c85,
   0xa2bfe8a1, 0xa81a664b, 0xc24b8b70, 0xc76c51a3, 0xd192e819, 0xd6990624, 0xf40e3585, 0x106aa070,
   0x19a4c116, 0x1e376c08, 0x2748774c, 0x34b0bcb5, 0x391c0cb3, 0x4ed8aa4a, 0x5b9cca4f, 0x682e6ff3,
   0x748f82ee, 0x78a5636f, 0x84c87814, 0x8cc70208, 0x90befffa, 0xa4506ceb, 0xbef9a3f7, 0xc67178f2]
  initial :=
  ⟨0x6a09e667, 0xbb67ae85, 0x3c6ef372, 0xa54ff53a,
   0x510e527f, 0x9b05688c, 0x1f83d9ab, 0x5be0cd19⟩
  scheduleSum₀ := (7, 18, 3)
  scheduleSum₁ := (17, 19, 10)
  stateSum₀ := (2, 13, 22)
  stateSum₁ := (6, 11, 25)

/-- The variant with words of 64 bits, from the same roots and the first 80 primes. -/
def variant512 : Variant where
  width := 64
  roundConstants :=
  [0x428a2f98d728ae22, 0x7137449123ef65cd, 0xb5c0fbcfec4d3b2f, 0xe9b5dba58189dbbc,
   0x3956c25bf348b538, 0x59f111f1b605d019, 0x923f82a4af194f9b, 0xab1c5ed5da6d8118,
   0xd807aa98a3030242, 0x12835b0145706fbe, 0x243185be4ee4b28c, 0x550c7dc3d5ffb4e2,
   0x72be5d74f27b896f, 0x80deb1fe3b1696b1, 0x9bdc06a725c71235, 0xc19bf174cf692694,
   0xe49b69c19ef14ad2, 0xefbe4786384f25e3, 0x0fc19dc68b8cd5b5, 0x240ca1cc77ac9c65,
   0x2de92c6f592b0275, 0x4a7484aa6ea6e483, 0x5cb0a9dcbd41fbd4, 0x76f988da831153b5,
   0x983e5152ee66dfab, 0xa831c66d2db43210, 0xb00327c898fb213f, 0xbf597fc7beef0ee4,
   0xc6e00bf33da88fc2, 0xd5a79147930aa725, 0x06ca6351e003826f, 0x142929670a0e6e70,
   0x27b70a8546d22ffc, 0x2e1b21385c26c926, 0x4d2c6dfc5ac42aed, 0x53380d139d95b3df,
   0x650a73548baf63de, 0x766a0abb3c77b2a8, 0x81c2c92e47edaee6, 0x92722c851482353b,
   0xa2bfe8a14cf10364, 0xa81a664bbc423001, 0xc24b8b70d0f89791, 0xc76c51a30654be30,
   0xd192e819d6ef5218, 0xd69906245565a910, 0xf40e35855771202a, 0x106aa07032bbd1b8,
   0x19a4c116b8d2d0c8, 0x1e376c085141ab53, 0x2748774cdf8eeb99, 0x34b0bcb5e19b48a8,
   0x391c0cb3c5c95a63, 0x4ed8aa4ae3418acb, 0x5b9cca4f7763e373, 0x682e6ff3d6b2b8a3,
   0x748f82ee5defb2fc, 0x78a5636f43172f60, 0x84c87814a1f0ab72, 0x8cc702081a6439ec,
   0x90befffa23631e28, 0xa4506cebde82bde9, 0xbef9a3f7b2c67915, 0xc67178f2e372532b,
   0xca273eceea26619c, 0xd186b8c721c0c207, 0xeada7dd6cde0eb1e, 0xf57d4f7fee6ed178,
   0x06f067aa72176fba, 0x0a637dc5a2c898a6, 0x113f9804bef90dae, 0x1b710b35131c471b,
   0x28db77f523047d84, 0x32caab7b40c72493, 0x3c9ebe0a15c9bebc, 0x431d67c49c100d4c,
   0x4cc5d4becb3e42b6, 0x597f299cfc657e2a, 0x5fcb6fab3ad6faec, 0x6c44198c4a475817]
  initial :=
  ⟨0x6a09e667f3bcc908, 0xbb67ae8584caa73b, 0x3c6ef372fe94f82b, 0xa54ff53a5f1d36f1,
   0x510e527fade682d1, 0x9b05688c2b3e6c1f, 0x1f83d9abfb41bd6b, 0x5be0cd19137e2179⟩
  scheduleSum₀ := (1, 8, 7)
  scheduleSum₁ := (19, 61, 6)
  stateSum₀ := (28, 34, 39)
  stateSum₁ := (14, 18, 41)

/-- The hash of 32 bytes. -/
def sha256 (message : Bytes) : Bytes := digest variant256 message

/-- The hash of 64 bytes. -/
def sha512 (message : Bytes) : Bytes := digest variant512 message

theorem length_sha256 (message : Bytes) : (sha256 message).length = 32 := length_digest _ _

end MintDrop.Sha2
