import BidayaxExecutive.Runtime.JsonText

/-!
# SHA-256

The hash of FIPS 180-4 over byte lists, with the digest as the 64 lower-case
hexadecimal digits that `createHash("sha256").digest("hex")` returns.  Words
are natural numbers below `2^32`; the message schedule is a sliding window of
sixteen words, so each round consumes one word and appends one.  HMAC-SHA256
authenticates bytes with two nested digests under a key that is padded to the
block of 64 bytes; a longer key is hashed first.
-/

namespace BidayaxExecutive.Runtime
namespace Sha256

/-- Evaluate a number before passing it on, so that a round never copies an
unevaluated expression into the next one. -/
def settle {α : Type} (number : Nat) (next : Nat → α) : α :=
  match number with
  | 0 => next 0
  | previous + 1 => next (previous + 1)

def add (left right : Nat) : Nat :=
  (left + right) % 4294967296

def rotateRight (count word : Nat) : Nat :=
  (word >>> count) ||| ((word <<< (32 - count)) % 4294967296)

def bigSigma0 (word : Nat) : Nat :=
  rotateRight 2 word ^^^ rotateRight 13 word ^^^ rotateRight 22 word

def bigSigma1 (word : Nat) : Nat :=
  rotateRight 6 word ^^^ rotateRight 11 word ^^^ rotateRight 25 word

def smallSigma0 (word : Nat) : Nat :=
  rotateRight 7 word ^^^ rotateRight 18 word ^^^ (word >>> 3)

def smallSigma1 (word : Nat) : Nat :=
  rotateRight 17 word ^^^ rotateRight 19 word ^^^ (word >>> 10)

def choose (x y z : Nat) : Nat :=
  (x &&& y) ^^^ ((4294967295 ^^^ x) &&& z)

def majority (x y z : Nat) : Nat :=
  (x &&& y) ^^^ (x &&& z) ^^^ (y &&& z)

def roundConstants : List Nat :=
  [0x428a2f98, 0x71374491, 0xb5c0fbcf, 0xe9b5dba5,
    0x3956c25b, 0x59f111f1, 0x923f82a4, 0xab1c5ed5,
    0xd807aa98, 0x12835b01, 0x243185be, 0x550c7dc3,
    0x72be5d74, 0x80deb1fe, 0x9bdc06a7, 0xc19bf174,
    0xe49b69c1, 0xefbe4786, 0x0fc19dc6, 0x240ca1cc,
    0x2de92c6f, 0x4a7484aa, 0x5cb0a9dc, 0x76f988da,
    0x983e5152, 0xa831c66d, 0xb00327c8, 0xbf597fc7,
    0xc6e00bf3, 0xd5a79147, 0x06ca6351, 0x14292967,
    0x27b70a85, 0x2e1b2138, 0x4d2c6dfc, 0x53380d13,
    0x650a7354, 0x766a0abb, 0x81c2c92e, 0x92722c85,
    0xa2bfe8a1, 0xa81a664b, 0xc24b8b70, 0xc76c51a3,
    0xd192e819, 0xd6990624, 0xf40e3585, 0x106aa070,
    0x19a4c116, 0x1e376c08, 0x2748774c, 0x34b0bcb5,
    0x391c0cb3, 0x4ed8aa4a, 0x5b9cca4f, 0x682e6ff3,
    0x748f82ee, 0x78a5636f, 0x84c87814, 0x8cc70208,
    0x90befffa, 0xa4506ceb, 0xbef9a3f7, 0xc67178f2]

/-- The eight chaining words. -/
structure Chain where
  (a b c d e f g h : Nat)

def initialChain : Chain :=
  ⟨0x6a09e667, 0xbb67ae85, 0x3c6ef372, 0xa54ff53a,
    0x510e527f, 0x9b05688c, 0x1f83d9ab, 0x5be0cd19⟩

/-- Sixteen consecutive words of the message schedule. -/
structure Window where
  (w0 w1 w2 w3 w4 w5 w6 w7 w8 w9 w10 w11 w12 w13 w14 w15 : Nat)

def rounds : List Nat → Window → Chain → Chain
  | [], _, chain => chain
  | constant :: constants,
      ⟨w0, w1, w2, w3, w4, w5, w6, w7, w8, w9, w10, w11, w12, w13, w14, w15⟩,
      ⟨a, b, c, d, e, f, g, h⟩ =>
      settle (add (add (add h (bigSigma1 e))
        (add (choose e f g) constant)) w0) fun first =>
      settle (add (bigSigma0 a) (majority a b c)) fun second =>
      settle (add d first) fun nextE =>
      settle (add first second) fun nextA =>
      settle (add (add (smallSigma1 w14) w9)
        (add (smallSigma0 w1) w0)) fun nextWord =>
        rounds constants
          ⟨w1, w2, w3, w4, w5, w6, w7, w8, w9, w10, w11, w12, w13, w14, w15,
            nextWord⟩
          ⟨nextA, a, b, c, nextE, e, f, g⟩

def addChain : Chain → Chain → Chain
  | ⟨a, b, c, d, e, f, g, h⟩, ⟨a', b', c', d', e', f', g', h'⟩ =>
      settle (add a a') fun a =>
      settle (add b b') fun b =>
      settle (add c c') fun c =>
      settle (add d d') fun d =>
      settle (add e e') fun e =>
      settle (add f f') fun f =>
      settle (add g g') fun g =>
      settle (add h h') fun h =>
        ⟨a, b, c, d, e, f, g, h⟩

/-- One block of sixteen words after the other. -/
def blocks : Nat → List Nat → Chain → Chain
  | count + 1, w0 :: w1 :: w2 :: w3 :: w4 :: w5 :: w6 :: w7 :: w8 :: w9 ::
      w10 :: w11 :: w12 :: w13 :: w14 :: w15 :: words, chain =>
      blocks count words <| addChain chain <|
        rounds roundConstants
          ⟨w0, w1, w2, w3, w4, w5, w6, w7, w8, w9, w10, w11, w12, w13, w14,
            w15⟩ chain
  | _, _, chain => chain

/-- Four bytes to a word, big-endian. -/
def wordsOf : List Nat → List Nat
  | a :: b :: c :: d :: rest =>
      settle (((a * 256 + b) * 256 + c) * 256 + d) fun word =>
        word :: wordsOf rest
  | _ => []

def pad (bytes : List Nat) : List Nat :=
  bytes ++ 0x80 :: List.replicate ((119 - bytes.length % 64) % 64) 0 ++
    (List.range 8).map fun position =>
      ((bytes.length * 8) >>> (56 - 8 * position)) % 256

def wordHex (word : Nat) : JsString :=
  (List.range 8).map fun position =>
    hexUnit ((word >>> (28 - 4 * position)) % 16)

def chainHex : Chain → JsString
  | ⟨a, b, c, d, e, f, g, h⟩ =>
      wordHex a ++ wordHex b ++ wordHex c ++ wordHex d ++
        wordHex e ++ wordHex f ++ wordHex g ++ wordHex h

end Sha256

open Sha256

/-- `createHash("sha256").update(bytes).digest("hex")`. -/
def sha256Hex (bytes : List UInt8) : JsString :=
  let words := wordsOf (pad (bytes.map UInt8.toNat))
  chainHex (blocks (words.length / 16) words initialChain)

private theorem length_wordHex (word : Nat) : (wordHex word).length = 8 := by
  simp [wordHex]

private theorem length_chainHex (chain : Chain) :
    (chainHex chain).length = 64 := by
  cases chain
  simp [chainHex, length_wordHex]

theorem length_sha256Hex (bytes : List UInt8) :
    (sha256Hex bytes).length = 64 :=
  length_chainHex _

private theorem hexUnit_of_mem_wordHex {word : Nat} {unit : UInt16}
    (member : unit ∈ wordHex word) :
    ∃ digit, digit < 16 ∧ unit = hexUnit digit := by
  obtain ⟨position, _, equal⟩ := List.mem_map.mp member
  exact ⟨_, Nat.mod_lt _ (by decide), equal.symm⟩

private theorem hexUnit_of_mem_chainHex {chain : Chain} {unit : UInt16}
    (member : unit ∈ chainHex chain) :
    ∃ digit, digit < 16 ∧ unit = hexUnit digit := by
  cases chain
  simp only [chainHex, List.mem_append] at member
  rcases member with ((((((inA | inB) | inC) | inD) | inE) | inF) | inG) | inH
  · exact hexUnit_of_mem_wordHex inA
  · exact hexUnit_of_mem_wordHex inB
  · exact hexUnit_of_mem_wordHex inC
  · exact hexUnit_of_mem_wordHex inD
  · exact hexUnit_of_mem_wordHex inE
  · exact hexUnit_of_mem_wordHex inF
  · exact hexUnit_of_mem_wordHex inG
  · exact hexUnit_of_mem_wordHex inH

theorem hexUnit_of_mem_sha256Hex {bytes : List UInt8} {unit : UInt16}
    (member : unit ∈ sha256Hex bytes) :
    ∃ digit, digit < 16 ∧ unit = hexUnit digit :=
  hexUnit_of_mem_chainHex member

/-- The one-block test vector of FIPS 180-4. -/
example :
    sha256Hex [97, 98, 99] =
      js "ba7816bf8f01cfea414140de5dae2223b00361a396177a9cb410ff61f20015ad" := by
  decide +kernel

/-! ## HMAC-SHA256 -/

namespace Sha256

/-- The four bytes of a word, big-endian. -/
def wordBytes (word : Nat) : List UInt8 :=
  [(word >>> 24).toUInt8, (word >>> 16).toUInt8, (word >>> 8).toUInt8,
    word.toUInt8]

def chainBytes : Chain → List UInt8
  | ⟨a, b, c, d, e, f, g, h⟩ =>
      [a, b, c, d, e, f, g, h].flatMap wordBytes

end Sha256

/-- `createHash("sha256").update(bytes).digest()`. -/
def sha256Digest (bytes : List UInt8) : List UInt8 :=
  let words := wordsOf (pad (bytes.map UInt8.toNat))
  chainBytes (blocks (words.length / 16) words initialChain)

/-- The key as a block. -/
def hmacBlock (key : List UInt8) : List UInt8 :=
  let short := if key.length > 64 then sha256Digest key else key
  short ++ List.replicate (64 - short.length) 0

/-- `createHmac("sha256", key).update(message).digest("hex")`. -/
def hmacSha256Hex (key message : List UInt8) : JsString :=
  let inner := sha256Digest <|
    (hmacBlock key).map (· ^^^ 0x36) ++ message
  sha256Hex ((hmacBlock key).map (· ^^^ 0x5c) ++ inner)

end BidayaxExecutive.Runtime
