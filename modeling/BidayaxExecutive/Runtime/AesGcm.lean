import BidayaxExecutive.Runtime.JsString

/-!
# AES-256-GCM

`createCipheriv("aes-256-gcm", key, iv)` of `node:crypto` and its decipher,
without associated data: the block cipher of FIPS 197 in counter mode, and a
tag over the ciphertext that is computed in the field of `2^128` elements.
-/

namespace BidayaxExecutive.Runtime

/-- The shorter text decides the length. -/
def exclusiveOr (left right : List UInt8) : List UInt8 :=
  List.zipWith (· ^^^ ·) left right

theorem length_exclusiveOr {text stream : List UInt8}
    (enough : text.length ≤ stream.length) :
    (exclusiveOr text stream).length = text.length := by
  rw [exclusiveOr, List.length_zipWith]
  omega

/-- What is added twice is gone. -/
theorem exclusiveOr_exclusiveOr {text stream : List UInt8}
    (enough : text.length ≤ stream.length) :
    exclusiveOr (exclusiveOr text stream) stream = text := by
  induction text generalizing stream with
  | nil =>
      cases stream with
      | nil =>
          rfl
      | cons first later =>
          rfl
  | cons byte rest inductionHypothesis =>
      cases stream with
      | nil =>
          rw [List.length_cons, List.length_nil] at enough
          omega
      | cons first later =>
          have shorter : rest.length ≤ later.length := by
            rw [List.length_cons, List.length_cons] at enough
            omega
          have tail := inductionHypothesis shorter
          simp only [exclusiveOr, List.zipWith_cons_cons] at tail ⊢
          rw [tail, UInt8.xor_assoc, UInt8.xor_self, UInt8.xor_zero]

/-! ## The block cipher -/

namespace Aes

def sBox : List UInt8 :=
  [0x63, 0x7c, 0x77, 0x7b, 0xf2, 0x6b, 0x6f, 0xc5, 0x30, 0x01, 0x67, 0x2b,
    0xfe, 0xd7, 0xab, 0x76, 0xca, 0x82, 0xc9, 0x7d, 0xfa, 0x59, 0x47, 0xf0,
    0xad, 0xd4, 0xa2, 0xaf, 0x9c, 0xa4, 0x72, 0xc0, 0xb7, 0xfd, 0x93, 0x26,
    0x36, 0x3f, 0xf7, 0xcc, 0x34, 0xa5, 0xe5, 0xf1, 0x71, 0xd8, 0x31, 0x15,
    0x04, 0xc7, 0x23, 0xc3, 0x18, 0x96, 0x05, 0x9a, 0x07, 0x12, 0x80, 0xe2,
    0xeb, 0x27, 0xb2, 0x75, 0x09, 0x83, 0x2c, 0x1a, 0x1b, 0x6e, 0x5a, 0xa0,
    0x52, 0x3b, 0xd6, 0xb3, 0x29, 0xe3, 0x2f, 0x84, 0x53, 0xd1, 0x00, 0xed,
    0x20, 0xfc, 0xb1, 0x5b, 0x6a, 0xcb, 0xbe, 0x39, 0x4a, 0x4c, 0x58, 0xcf,
    0xd0, 0xef, 0xaa, 0xfb, 0x43, 0x4d, 0x33, 0x85, 0x45, 0xf9, 0x02, 0x7f,
    0x50, 0x3c, 0x9f, 0xa8, 0x51, 0xa3, 0x40, 0x8f, 0x92, 0x9d, 0x38, 0xf5,
    0xbc, 0xb6, 0xda, 0x21, 0x10, 0xff, 0xf3, 0xd2, 0xcd, 0x0c, 0x13, 0xec,
    0x5f, 0x97, 0x44, 0x17, 0xc4, 0xa7, 0x7e, 0x3d, 0x64, 0x5d, 0x19, 0x73,
    0x60, 0x81, 0x4f, 0xdc, 0x22, 0x2a, 0x90, 0x88, 0x46, 0xee, 0xb8, 0x14,
    0xde, 0x5e, 0x0b, 0xdb, 0xe0, 0x32, 0x3a, 0x0a, 0x49, 0x06, 0x24, 0x5c,
    0xc2, 0xd3, 0xac, 0x62, 0x91, 0x95, 0xe4, 0x79, 0xe7, 0xc8, 0x37, 0x6d,
    0x8d, 0xd5, 0x4e, 0xa9, 0x6c, 0x56, 0xf4, 0xea, 0x65, 0x7a, 0xae, 0x08,
    0xba, 0x78, 0x25, 0x2e, 0x1c, 0xa6, 0xb4, 0xc6, 0xe8, 0xdd, 0x74, 0x1f,
    0x4b, 0xbd, 0x8b, 0x8a, 0x70, 0x3e, 0xb5, 0x66, 0x48, 0x03, 0xf6, 0x0e,
    0x61, 0x35, 0x57, 0xb9, 0x86, 0xc1, 0x1d, 0x9e, 0xe1, 0xf8, 0x98, 0x11,
    0x69, 0xd9, 0x8e, 0x94, 0x9b, 0x1e, 0x87, 0xe9, 0xce, 0x55, 0x28, 0xdf,
    0x8c, 0xa1, 0x89, 0x0d, 0xbf, 0xe6, 0x42, 0x68, 0x41, 0x99, 0x2d, 0x0f,
    0xb0, 0x54, 0xbb, 0x16]

def substitute (byte : UInt8) : UInt8 :=
  sBox.getD byte.toNat 0

/-- Multiplication by the variable in the field of the cipher. -/
def double (byte : UInt8) : UInt8 :=
  if byte < 0x80 then byte * 2 else byte * 2 ^^^ 0x1b

/-- The columns of the state follow each other; row `r` moves by `r` columns. -/
def shiftRows (state : List UInt8) : List UInt8 :=
  (List.range 16).map fun position => state.getD (5 * position % 16) 0

def mixColumns : List UInt8 → List UInt8
  | a :: b :: c :: d :: columns =>
      (double a ^^^ double b ^^^ b ^^^ c ^^^ d) ::
        (a ^^^ double b ^^^ double c ^^^ c ^^^ d) ::
        (a ^^^ b ^^^ double c ^^^ double d ^^^ d) ::
        (double a ^^^ a ^^^ b ^^^ c ^^^ double d) :: mixColumns columns
  | _ => []

def addRoundKey (roundKey state : List UInt8) : List UInt8 :=
  (List.range 16).map fun position =>
    state.getD position 0 ^^^ roundKey.getD position 0

/-- The next eight words of the key schedule. -/
def nextWords (constant : UInt8) : List (List UInt8) → List (List UInt8)
  | [w0, w1, w2, w3, w4, w5, w6, w7] =>
      let turned := (w7.rotateLeft 1).map substitute
      let v0 := exclusiveOr w0 (exclusiveOr turned [constant, 0, 0, 0])
      let v1 := exclusiveOr w1 v0
      let v2 := exclusiveOr w2 v1
      let v3 := exclusiveOr w3 v2
      let v4 := exclusiveOr w4 (v3.map substitute)
      let v5 := exclusiveOr w5 v4
      let v6 := exclusiveOr w6 v5
      [v0, v1, v2, v3, v4, v5, v6, exclusiveOr w7 v6]
  | words => words

def schedule : Nat → UInt8 → List (List UInt8) → List (List UInt8)
  | 0, _, _ => []
  | groups + 1, constant, words =>
      words ++ schedule groups (double constant) (nextWords constant words)

def keyWords (key : List UInt8) : List (List UInt8) :=
  (List.range 8).map fun word => (key.drop (4 * word)).take 4

/-- Fifteen round keys of four words. -/
def roundKeys (key : List UInt8) : List (List UInt8) :=
  let words := schedule 8 1 (keyWords key)
  (List.range 15).map fun round => ((words.drop (4 * round)).take 4).flatten

/-- The last round does not mix the columns. -/
def rounds : List (List UInt8) → List UInt8 → List UInt8
  | [], state => state
  | [roundKey], state => addRoundKey roundKey (shiftRows (state.map substitute))
  | roundKey :: later, state =>
      rounds later <| addRoundKey roundKey <|
        mixColumns (shiftRows (state.map substitute))

def encryptBlock (key block : List UInt8) : List UInt8 :=
  let keys := roundKeys key
  rounds (keys.drop 1) (addRoundKey (keys.getD 0 []) block)

private theorem length_addRoundKey (roundKey state : List UInt8) :
    (addRoundKey roundKey state).length = 16 := by
  rw [addRoundKey, List.length_map, List.length_range]

private theorem length_rounds {keys : List (List UInt8)} {state : List UInt8}
    (whole : state.length = 16) : (rounds keys state).length = 16 := by
  induction keys generalizing state with
  | nil =>
      rw [rounds]
      exact whole
  | cons roundKey later inductionHypothesis =>
      cases later with
      | nil =>
          rw [rounds]
          exact length_addRoundKey _ _
      | cons next rest =>
          rw [rounds]
          · exact inductionHypothesis (length_addRoundKey _ _)
          · exact List.cons_ne_nil next rest

theorem length_encryptBlock (key block : List UInt8) :
    (encryptBlock key block).length = 16 :=
  length_rounds (length_addRoundKey _ _)

end Aes

open Aes

/-! ## The mode -/

namespace Gcm

/-- The first byte is the most significant one. -/
def blockNumber (bytes : List UInt8) : Nat :=
  bytes.foldl (fun number byte => number * 256 + byte.toNat) 0

def numberBlock (number : Nat) : List UInt8 :=
  (List.range 16).map fun position =>
    (number >>> (120 - 8 * position)).toUInt8

/-- Multiplication by the variable; its higher powers have the lower bits. -/
def shifted (element : Nat) : Nat :=
  if element % 2 = 0 then element / 2
  else element / 2 ^^^ 0xe1000000000000000000000000000000

def productFrom : Nat → Nat → Nat → Nat → Nat
  | 0, _, _, sum => sum
  | bits + 1, left, right, sum =>
      productFrom bits left (shifted right)
        (if left.testBit bits then sum ^^^ right else sum)

def product (left right : Nat) : Nat :=
  productFrom 128 left right 0

/-- Blocks of sixteen bytes, the last one filled up with zeros. -/
def blocksOf (bytes : List UInt8) : List (List UInt8) :=
  (List.range ((bytes.length + 15) / 16)).map fun index =>
    let block := (bytes.drop (16 * index)).take 16
    block ++ List.replicate (16 - block.length) 0

/-- The polynomial of the blocks and of the length in bits. -/
def authenticator (hashKey : Nat) (bytes : List UInt8) : Nat :=
  ((blocksOf bytes).map blockNumber ++ [bytes.length * 8]).foldl
    (fun sum block => product (sum ^^^ block) hashKey) 0

def hashKey (key : List UInt8) : Nat :=
  blockNumber (encryptBlock key (List.replicate 16 0))

def firstCounter (key iv : List UInt8) : Nat :=
  if iv.length = 12 then blockNumber (iv ++ [0, 0, 0, 1])
  else authenticator (hashKey key) iv

/-- Only the last four bytes count. -/
def counterAfter (counter steps : Nat) : Nat :=
  counter / 4294967296 * 4294967296 + (counter + steps) % 4294967296

def keyStream (key iv : List UInt8) (length : Nat) : List UInt8 :=
  (List.range ((length + 15) / 16)).flatMap fun index =>
    encryptBlock key
      (numberBlock (counterAfter (firstCounter key iv) (index + 1)))

def counterMode (key iv text : List UInt8) : List UInt8 :=
  exclusiveOr text (keyStream key iv text.length)

/-- `cipher.getAuthTag()`. -/
def authTag (key iv ciphertext : List UInt8) : List UInt8 :=
  exclusiveOr (numberBlock (authenticator (hashKey key) ciphertext))
    (encryptBlock key (numberBlock (firstCounter key iv)))

/-- `setAuthTag` takes a shorter tag too. -/
def isTagLength (length : Nat) : Bool :=
  length == 4 || length == 8 || (12 ≤ length && length ≤ 16)

/-- `none` where the decipher throws. -/
def decipher (key iv tag ciphertext : List UInt8) : Option (List UInt8) :=
  if iv.isEmpty || !isTagLength tag.length ||
      (authTag key iv ciphertext).take tag.length != tag then none
  else some (counterMode key iv ciphertext)

private theorem length_keyStream (key iv : List UInt8) (length : Nat) :
    length ≤ (keyStream key iv length).length := by
  rw [keyStream, List.length_flatMap]
  simp only [length_encryptBlock, List.map_const', List.sum_replicate_nat,
    List.length_range]
  omega

theorem length_counterMode (key iv text : List UInt8) :
    (counterMode key iv text).length = text.length :=
  length_exclusiveOr (length_keyStream key iv text.length)

theorem counterMode_counterMode (key iv text : List UInt8) :
    counterMode key iv (counterMode key iv text) = text := by
  have sameLength := length_counterMode key iv text
  rw [counterMode, sameLength, counterMode]
  exact exclusiveOr_exclusiveOr (length_keyStream key iv text.length)

theorem length_authTag (key iv ciphertext : List UInt8) :
    (authTag key iv ciphertext).length = 16 := by
  have tagBlock : (numberBlock (authenticator (hashKey key)
      ciphertext)).length = 16 := by
    rw [numberBlock, List.length_map, List.length_range]
  rw [authTag, length_exclusiveOr, tagBlock]
  rw [tagBlock, length_encryptBlock]

theorem decipher_authTag {key iv text : List UInt8} (named : iv ≠ []) :
    decipher key iv (authTag key iv (counterMode key iv text))
        (counterMode key iv text) = some text := by
  have whole := length_authTag key iv (counterMode key iv text)
  have tagged : (authTag key iv (counterMode key iv text)).take
      (authTag key iv (counterMode key iv text)).length =
        authTag key iv (counterMode key iv text) :=
    List.take_length
  rw [decipher, tagged, whole, if_neg, counterMode_counterMode]
  simp [isTagLength, named]

/-- The cipher on a block of zeros, under a key of zeros. -/
example :
    counterMode (List.replicate 32 0) (List.replicate 12 0)
        (List.replicate 16 0) =
      [0xce, 0xa7, 0x40, 0x3d, 0x4d, 0x60, 0x6b, 0x6e,
        0x07, 0x4e, 0xc5, 0xd3, 0xba, 0xf3, 0x9d, 0x18] := by
  decide +kernel

end Gcm

end BidayaxExecutive.Runtime
