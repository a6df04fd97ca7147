/-
SHA-512 over lists of bytes.

The message is padded to whole blocks of 128 bytes, each block is sixteen
big-endian words of 64 bits, and every block stirs the eight words of the
state in eighty rounds. The schedule of a block is not stored: a window of
sixteen words slides over it, its head is the word of the round, and the
word that enters is computed from four words of the window.

What other modules use of a digest is its width (`length_digest`).
-/

namespace StatelessAuth.Sha512

/-- The eight words that are carried from block to block. -/
structure State where
  a : UInt64
  b : UInt64
  c : UInt64
  d : UInt64
  e : UInt64
  f : UInt64
  g : UInt64
  h : UInt64
  deriving DecidableEq, Repr

/-- The words before the first block: fractions of the square roots of the
first eight primes. -/
def initial : State :=
  { a := 0x6a09e667f3bcc908, b := 0xbb67ae8584caa73b
    c := 0x3c6ef372fe94f82b, d := 0xa54ff53a5f1d36f1
    e := 0x510e527fade682d1, f := 0x9b05688c2b3e6c1f
    g := 0x1f83d9abfb41bd6b, h := 0x5be0cd19137e2179 }

/-- The constants of the rounds: fractions of the cube roots of the first
eighty primes. -/
def roundConstants : List UInt64 :=
  [0x428a2f98d728ae22, 0x7137449123ef65cd, 0xb5c0fbcfec4d3b2f,
   0xe9b5dba58189dbbc, 0x3956c25bf348b538, 0x59f111f1b605d019,
   0x923f82a4af194f9b, 0xab1c5ed5da6d8118, 0xd807aa98a3030242,
   0x12835b0145706fbe, 0x243185be4ee4b28c, 0x550c7dc3d5ffb4e2,
   0x72be5d74f27b896f, 0x80deb1fe3b1696b1, 0x9bdc06a725c71235,
   0xc19bf174cf692694, 0xe49b69c19ef14ad2, 0xefbe4786384f25e3,
   0x0fc19dc68b8cd5b5, 0x240ca1cc77ac9c65, 0x2de92c6f592b0275,
   0x4a7484aa6ea6e483, 0x5cb0a9dcbd41fbd4, 0x76f988da831153b5,
   0x983e5152ee66dfab, 0xa831c66d2db43210, 0xb00327c898fb213f,
   0xbf597fc7beef0ee4, 0xc6e00bf33da88fc2, 0xd5a79147930aa725,
   0x06ca6351e003826f, 0x142929670a0e6e70, 0x27b70a8546d22ffc,
   0x2e1b21385c26c926, 0x4d2c6dfc5ac42aed, 0x53380d139d95b3df,
   0x650a73548baf63de, 0x766a0abb3c77b2a8, 0x81c2c92e47edaee6,
   0x92722c851482353b, 0xa2bfe8a14cf10364, 0xa81a664bbc423001,
   0xc24b8b70d0f89791, 0xc76c51a30654be30, 0xd192e819d6ef5218,
   0xd69906245565a910, 0xf40e35855771202a, 0x106aa07032bbd1b8,
   0x19a4c116b8d2d0c8, 0x1e376c085141ab53, 0x2748774cdf8eeb99,
   0x34b0bcb5e19b48a8, 0x391c0cb3c5c95a63, 0x4ed8aa4ae3418acb,
   0x5b9cca4f7763e373, 0x682e6ff3d6b2b8a3, 0x748f82ee5defb2fc,
   0x78a5636f43172f60, 0x84c87814a1f0ab72, 0x8cc702081a6439ec,
   0x90befffa23631e28, 0xa4506cebde82bde9, 0xbef9a3f7b2c67915,
   0xc67178f2e372532b, 0xca273eceea26619c, 0xd186b8c721c0c207,
   0xeada7dd6cde0eb1e, 0xf57d4f7fee6ed178, 0x06f067aa72176fba,
   0x0a637dc5a2c898a6, 0x113f9804bef90dae, 0x1b710b35131c471b,
   0x28db77f523047d84, 0x32caab7b40c72493, 0x3c9ebe0a15c9bebc,
   0x431d67c49c100d4c, 0x4cc5d4becb3e42b6, 0x597f299cfc657e2a,
   0x5fcb6fab3ad6faec, 0x6c44198c4a475817]

-- =========================================================== one block

/-- A word turned right by `n` bits, for `n` from 1 to 63. -/
def rotr (x n : UInt64) : UInt64 :=
  (x >>> n) ||| (x <<< (64 - n))

/-- The word that follows a window of sixteen words of the schedule. -/
def nextWord (window : List UInt64) : UInt64 :=
  let w (i : Nat) : UInt64 := window.getD i 0
  let s0 := rotr (w 1) 1 ^^^ rotr (w 1) 8 ^^^ (w 1 >>> 7)
  let s1 := rotr (w 14) 19 ^^^ rotr (w 14) 61 ^^^ (w 14 >>> 6)
  w 0 + s0 + w 9 + s1

/-- One round: the state is stirred with a constant and a word. -/
def step (s : State) (constant word : UInt64) : State :=
  let sum1 := rotr s.e 14 ^^^ rotr s.e 18 ^^^ rotr s.e 41
  let choice := (s.e &&& s.f) ^^^ (~~~ s.e &&& s.g)
  let t1 := s.h + sum1 + choice + constant + word
  let sum0 := rotr s.a 28 ^^^ rotr s.a 34 ^^^ rotr s.a 39
  let majority := (s.a &&& s.b) ^^^ (s.a &&& s.c) ^^^ (s.b &&& s.c)
  { a := t1 + sum0 + majority, b := s.a, c := s.b, d := s.c
    e := s.d + t1, f := s.e, g := s.f, h := s.g }

/-- The rounds of the given constants, the schedule standing at `window`. -/
def rounds (s : State) (window : List UInt64) : List UInt64 → State
  | [] => s
  | constant :: rest =>
      rounds (step s constant (window.headD 0))
        (window.tail ++ [nextWord window]) rest

/-- The state after one more block of sixteen words. -/
def compress (s : State) (block : List UInt64) : State :=
  let t := rounds s block roundConstants
  { a := s.a + t.a, b := s.b + t.b, c := s.c + t.c, d := s.d + t.d
    e := s.e + t.e, f := s.f + t.f, g := s.g + t.g, h := s.h + t.h }

-- ====================================================== bytes and words

/-- The bytes of a word, most significant first. -/
def wordBytes (x : UInt64) : List UInt8 :=
  [(x >>> 56).toUInt8, (x >>> 48).toUInt8, (x >>> 40).toUInt8,
   (x >>> 32).toUInt8, (x >>> 24).toUInt8, (x >>> 16).toUInt8,
   (x >>> 8).toUInt8, x.toUInt8]

/-- The words of a list of bytes; a last group of less than eight bytes is
left out. -/
def toWords : List UInt8 → List UInt64
  | a :: b :: c :: d :: e :: f :: g :: h :: rest =>
      [b, c, d, e, f, g, h].foldl (fun x byte => (x <<< 8) ||| byte.toUInt64)
        a.toUInt64 :: toWords rest
  | _ => []

/-- The message with a one bit, zeros, and its length in bits as a number
of sixteen bytes, so that it fills whole blocks. -/
def pad (message : List UInt8) : List UInt8 :=
  let zeros := (239 - message.length % 128) % 128
  message ++ 0x80 :: List.replicate (zeros + 8) 0
    ++ wordBytes (UInt64.ofNat (8 * message.length))

/-- The state after the blocks of the given words. -/
def absorb (s : State) (words : List UInt64) : State :=
  match words with
  | [] => s
  | word :: rest =>
      absorb (compress s ((word :: rest).take 16)) ((word :: rest).drop 16)
termination_by words.length
decreasing_by
  rw [List.length_drop, List.length_cons]
  omega

def State.bytes (s : State) : List UInt8 :=
  [s.a, s.b, s.c, s.d, s.e, s.f, s.g, s.h].flatMap wordBytes

def digest (message : List UInt8) : List UInt8 :=
  (absorb initial (toWords (pad message))).bytes

theorem length_digest (message : List UInt8) :
    (digest message).length = 64 := by
  simp [digest, State.bytes, wordBytes]

end StatelessAuth.Sha512
