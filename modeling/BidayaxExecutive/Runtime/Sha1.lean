import BidayaxExecutive.Runtime.Base64Url
import BidayaxExecutive.Runtime.Sha256

/-!
# HMAC-SHA1

The older hash of FIPS 180-4 pads and cuts its message as SHA-256 does and
keeps five words.  `node:crypto` authenticates bytes with two nested digests
and prints the twenty bytes in base64.
-/

namespace BidayaxExecutive.Runtime

namespace Sha1

open Sha256 (settle add rotateRight choose majority Window wordsOf pad
  wordBytes)

def rotateLeft (count word : Nat) : Nat :=
  rotateRight (32 - count) word

def parity (x y z : Nat) : Nat :=
  x ^^^ y ^^^ z

/-- The function and the constant of a round. -/
def mix (round x y z : Nat) : Nat :=
  if round < 20 then add (choose x y z) 0x5a827999
  else if round < 40 then add (parity x y z) 0x6ed9eba1
  else if round < 60 then add (majority x y z) 0x8f1bbcdc
  else add (parity x y z) 0xca62c1d6

/-- The five chaining words. -/
structure Chain where
  (a b c d e : Nat)

def initialChain : Chain :=
  ⟨0x67452301, 0xefcdab89, 0x98badcfe, 0x10325476, 0xc3d2e1f0⟩

/-- The rounds with the given numbers. -/
def rounds : List Nat → Window → Chain → Chain
  | [], _, chain => chain
  | round :: later,
      ⟨w0, w1, w2, w3, w4, w5, w6, w7, w8, w9, w10, w11, w12, w13, w14, w15⟩,
      ⟨a, b, c, d, e⟩ =>
      settle (add (add (rotateLeft 5 a) (mix round b c d))
        (add e w0)) fun nextA =>
      settle (rotateLeft 30 b) fun nextC =>
      settle (rotateLeft 1 (w13 ^^^ w8 ^^^ w2 ^^^ w0)) fun nextWord =>
        rounds later
          ⟨w1, w2, w3, w4, w5, w6, w7, w8, w9, w10, w11, w12, w13, w14, w15,
            nextWord⟩
          ⟨nextA, a, nextC, c, d⟩

def addChain : Chain → Chain → Chain
  | ⟨a, b, c, d, e⟩, ⟨a', b', c', d', e'⟩ =>
      settle (add a a') fun a =>
      settle (add b b') fun b =>
      settle (add c c') fun c =>
      settle (add d d') fun d =>
      settle (add e e') fun e =>
        ⟨a, b, c, d, e⟩

def blocks : Nat → List Nat → Chain → Chain
  | count + 1, w0 :: w1 :: w2 :: w3 :: w4 :: w5 :: w6 :: w7 :: w8 :: w9 ::
      w10 :: w11 :: w12 :: w13 :: w14 :: w15 :: words, chain =>
      blocks count words <| addChain chain <|
        rounds (List.range 80)
          ⟨w0, w1, w2, w3, w4, w5, w6, w7, w8, w9, w10, w11, w12, w13, w14,
            w15⟩ chain
  | _, _, chain => chain

def chainBytes : Chain → List UInt8
  | ⟨a, b, c, d, e⟩ => [a, b, c, d, e].flatMap wordBytes

theorem chainBytes_ne_nil (chain : Chain) : chainBytes chain ≠ [] := by
  cases chain
  exact List.cons_ne_nil _ _

end Sha1

/-- `createHash("sha1").update(bytes).digest()`. -/
def sha1Digest (bytes : List UInt8) : List UInt8 :=
  let words := Sha256.wordsOf (Sha256.pad (bytes.map UInt8.toNat))
  Sha1.chainBytes (Sha1.blocks (words.length / 16) words Sha1.initialChain)

/-- `createHmac("sha1", key).update(message).digest()`. -/
def hmacSha1 (key message : List UInt8) : List UInt8 :=
  let short := if key.length > 64 then sha1Digest key else key
  let block := short ++ List.replicate (64 - short.length) 0
  let inner := sha1Digest (block.map (· ^^^ 0x36) ++ message)
  sha1Digest (block.map (· ^^^ 0x5c) ++ inner)

theorem hmacSha1_ne_nil (key message : List UInt8) :
    hmacSha1 key message ≠ [] :=
  Sha1.chainBytes_ne_nil _

/-! ## Base64 -/

def base64Unit (sextet : Nat) : UInt16 :=
  if sextet < 62 then Base64Url.sextetUnit sextet
  else if sextet = 62 then 43
  else 47

/-- `Buffer.from(data).toString("base64")`. -/
def base64 (data : List UInt8) : JsString :=
  (Base64Url.sextets data).map base64Unit ++
    List.replicate ((3 - data.length % 3) % 3) 61

theorem base64_ne_nil {data : List UInt8} (nonempty : data ≠ []) :
    base64 data ≠ [] := by
  have noSextets : Base64Url.sextets data ≠ [] := by
    match data with
    | [] =>
        exact absurd rfl nonempty
    | [_] =>
        exact List.cons_ne_nil _ _
    | [_, _] =>
        exact List.cons_ne_nil _ _
    | _ :: _ :: _ :: _ =>
        exact List.cons_ne_nil _ _
  intro empty
  have noUnits := (List.append_eq_nil_iff.mp empty).1
  exact noSextets (List.map_eq_nil_iff.mp noUnits)

theorem isAscii_base64 (data : List UInt8) :
    JsString.isAscii (base64 data) = true := by
  have plain : ∀ sextet < 64, base64Unit sextet < 128 := by
    decide
  unfold JsString.isAscii
  rw [List.all_eq_true]
  intro unit member
  apply decide_eq_true
  cases List.mem_append.mp member with
  | inl ofSextet =>
      obtain ⟨sextet, inSextets, rfl⟩ := List.mem_map.mp ofSextet
      exact plain sextet (Base64Url.sextets_lt inSextets)
  | inr padding =>
      rw [List.eq_of_mem_replicate padding]
      decide

example :
    base64 (hmacSha1 (js "key" |>.map (·.toUInt8))
      (js "The quick brown fox jumps over the lazy dog" |>.map (·.toUInt8))) =
        js "3nybhbi3iqa8ino29wqQcBydtNk=" := by
  decide +kernel

end BidayaxExecutive.Runtime
