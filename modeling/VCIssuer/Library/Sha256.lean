import VCIssuer.Library.Wire

/-!
# SHA-256

The compression function runs over a sliding window of sixteen message words:
each round uses the first one and appends the word sixteen places on.
-/

namespace VCIssuer.Library.Sha256

/-- The eight words that a message is folded into. -/
structure Chaining where
  a : UInt32
  b : UInt32
  c : UInt32
  d : UInt32
  e : UInt32
  f : UInt32
  g : UInt32
  h : UInt32

def Chaining.initial : Chaining :=
  ⟨0x6a09e667, 0xbb67ae85, 0x3c6ef372, 0xa54ff53a, 0x510e527f, 0x9b05688c, 0x1f83d9ab, 0x5be0cd19⟩

def roundConstants : List UInt32 :=
  [ 0x428a2f98, 0x71374491, 0xb5c0fbcf, 0xe9b5dba5, 0x3956c25b, 0x59f111f1, 0x923f82a4, 0xab1c5ed5,
    0xd807aa98, 0x12835b01, 0x243185be, 0x550c7dc3, 0x72be5d74, 0x80deb1fe, 0x9bdc06a7, 0xc19bf174,
    0xe49b69c1, 0xefbe4786, 0x0fc19dc6, 0x240ca1cc, 0x2de92c6f, 0x4a7484aa, 0x5cb0a9dc, 0x76f988da,
    0x983e5152, 0xa831c66d, 0xb00327c8, 0xbf597fc7, 0xc6e00bf3, 0xd5a79147, 0x06ca6351, 0x14292967,
    0x27b70a85, 0x2e1b2138, 0x4d2c6dfc, 0x53380d13, 0x650a7354, 0x766a0abb, 0x81c2c92e, 0x92722c85,
    0xa2bfe8a1, 0xa81a664b, 0xc24b8b70, 0xc76c51a3, 0xd192e819, 0xd6990624, 0xf40e3585, 0x106aa070,
    0x19a4c116, 0x1e376c08, 0x2748774c, 0x34b0bcb5, 0x391c0cb3, 0x4ed8aa4a, 0x5b9cca4f, 0x682e6ff3,
    0x748f82ee, 0x78a5636f, 0x84c87814, 0x8cc70208, 0x90befffa, 0xa4506ceb, 0xbef9a3f7, 0xc67178f2 ]

/-! ## One block -/

def rotateRight (word count : UInt32) : UInt32 :=
  (word >>> count) ||| (word <<< (32 - count))

/-- The message word sixteen places behind the first one of the window. -/
def nextWord (window : List UInt32) : UInt32 :=
  let x := window.getD 1 0
  let y := window.getD 14 0
  let sigma0 := rotateRight x 7 ^^^ rotateRight x 18 ^^^ (x >>> 3)
  let sigma1 := rotateRight y 17 ^^^ rotateRight y 19 ^^^ (y >>> 10)
  window.getD 0 0 + sigma0 + window.getD 9 0 + sigma1

def round (state : Chaining × List UInt32) (constant : UInt32) : Chaining × List UInt32 :=
  let ⟨a, b, c, d, e, f, g, h⟩ := state.1
  let sum1 := rotateRight e 6 ^^^ rotateRight e 11 ^^^ rotateRight e 25
  let choice := (e &&& f) ^^^ (~~~e &&& g)
  let first := h + sum1 + choice + constant + state.2.getD 0 0
  let sum0 := rotateRight a 2 ^^^ rotateRight a 13 ^^^ rotateRight a 22
  let majority := (a &&& b) ^^^ (a &&& c) ^^^ (b &&& c)
  (⟨first + sum0 + majority, a, b, c, d + first, e, f, g⟩, state.2.tail ++ [nextWord state.2])

def Chaining.add (x y : Chaining) : Chaining :=
  ⟨x.a + y.a, x.b + y.b, x.c + y.c, x.d + y.d, x.e + y.e, x.f + y.f, x.g + y.g, x.h + y.h⟩

def messageWords (block : Bytes) : List UInt32 :=
  (List.range 16).map fun i => UInt32.ofNat (fromBeBytes ((block.drop (4 * i)).take 4))

def compress (state : Chaining) (block : Bytes) : Chaining :=
  state.add (roundConstants.foldl round (state, messageWords block)).1

/-! ## The digest -/

/-- The message with a one bit, zeros up to a whole block, and its length in bits. -/
def pad (message : Bytes) : Bytes :=
  message ++ [0x80] ++ List.replicate ((119 - message.length % 64) % 64) 0 ++
    toBeBytes 8 (8 * message.length)

def blocks : Nat → Bytes → List Bytes
  | 0, _ => []
  | count + 1, bytes => bytes.take 64 :: blocks count (bytes.drop 64)

def Chaining.bytes (state : Chaining) : Bytes :=
  [state.a, state.b, state.c, state.d, state.e, state.f, state.g, state.h].flatMap fun word =>
    toBeBytes 4 word.toNat

@[irreducible]
def digest (message : Bytes) : Bytes :=
  ((blocks ((pad message).length / 64) (pad message)).foldl compress .initial).bytes

@[simp]
theorem digest_length (message : Bytes) : (digest message).length = 32 := by
  simp [digest, Chaining.bytes]

example : digest [0x61, 0x62, 0x63] =
    toBeBytes 32 0xba7816bf8f01cfea414140de5dae2223b00361a396177a9cb410ff61f20015ad := by
  decide +kernel

end VCIssuer.Library.Sha256
