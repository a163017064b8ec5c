import BidayaxExecutive.Runtime.AesGcm
import BidayaxExecutive.Runtime.Base64Url
import BidayaxExecutive.Runtime.Sha256
import BidayaxExecutive.Runtime.Utf8

/-!
# Tokens and sealed secrets

Tokens are drawn bytes in base64url.  The verifier of a login is stored under
encryption with the secret of the cookies, and is read back when the browser
returns.
-/

namespace BidayaxExecutive.Identity

open BidayaxExecutive.Runtime JsString

/-! ## Tokens -/

/-- What `randomBytes(count)` draws. -/
abbrev RandomBytes (count : Nat) : Type :=
  { bytes : List UInt8 // bytes.length = count }

def randomUrlToken {count : Nat} (drawn : RandomBytes count) : JsString :=
  Base64Url.encode drawn.val

def sha256Base64Url (value : JsString) : JsString :=
  Base64Url.encode (sha256Digest (utf8 value))

structure PkcePair where
  challenge : JsString
  verifier : JsString

def createPkcePair (drawn : RandomBytes 48) : PkcePair where
  challenge := sha256Base64Url (randomUrlToken drawn)
  verifier := randomUrlToken drawn

theorem isAscii_randomUrlToken {count : Nat} (drawn : RandomBytes count) :
    isAscii (randomUrlToken drawn) = true := by
  have plain : ∀ sextet < 64, Base64Url.sextetUnit sextet < 128 := by
    decide
  rw [isAscii, List.all_eq_true]
  intro unit member
  obtain ⟨sextet, inSextets, rfl⟩ := List.mem_map.mp member
  exact decide_eq_true (plain sextet (Base64Url.sextets_lt inSextets))

theorem randomUrlToken_ne_nil {count : Nat} (drawn : RandomBytes count)
    (some : 0 < count) : randomUrlToken drawn ≠ [] := by
  have length := Base64Url.length_encode drawn.val
  rw [drawn.property] at length
  intro empty
  rw [randomUrlToken] at empty
  rw [empty, List.length_nil] at length
  omega

/-! ## Sealed secrets -/

def encryptionKey (secret : JsString) : List UInt8 :=
  sha256Digest (utf8 secret)

/-- `iv` is what `sealSecret` draws. -/
def sealSecret (iv : RandomBytes 12) (value secret : JsString) : JsString :=
  let key := encryptionKey secret
  let ciphertext := Gcm.counterMode key iv.val (utf8 value)
  let tag := Gcm.authTag key iv.val ciphertext
  List.intercalate [46] ([iv.val, tag, ciphertext].map Base64Url.encode)

/-- `none` is an exception. -/
def unsealSecret (value secret : JsString) : Option JsString :=
  match value.splitOn 46 with
  | [ivPart, tagPart, ciphertextPart] =>
      if ivPart.isEmpty || tagPart.isEmpty || ciphertextPart.isEmpty then none
      else
        (Gcm.decipher (encryptionKey secret) (Base64Url.decode ivPart)
          (Base64Url.decode tagPart)
          (Base64Url.decode ciphertextPart)).map utf8Decode
  | _ => none

private theorem plain_encode (data : List UInt8) :
    46 ∉ Base64Url.encode data := by
  intro member
  exact absurd (Base64Url.isUnit_of_mem_encode member) (by decide)

private theorem encode_isEmpty (data : List UInt8) :
    (Base64Url.encode data).isEmpty = data.isEmpty := by
  have length := Base64Url.length_encode data
  cases data with
  | nil =>
      rfl
  | cons byte rest =>
      rw [List.length_cons] at length
      cases encoded : Base64Url.encode (byte :: rest) with
      | nil =>
          rw [encoded, List.length_nil] at length
          omega
      | cons unit units =>
          rfl

/-- What was sealed comes back well formed; an empty secret does not. -/
theorem unsealSecret_sealSecret (iv : RandomBytes 12)
    (value secret : JsString) :
    unsealSecret (sealSecret iv value secret) secret =
      if value = [] then none else some (toWellFormed value) := by
  have named : iv.val ≠ [] := by
    intro empty
    have length := iv.property
    rw [empty, List.length_nil] at length
    omega
  have parts : (sealSecret iv value secret).splitOn 46 =
      [Base64Url.encode iv.val,
        Base64Url.encode (Gcm.authTag (encryptionKey secret) iv.val
          (Gcm.counterMode (encryptionKey secret) iv.val (utf8 value))),
        Base64Url.encode (Gcm.counterMode (encryptionKey secret) iv.val
          (utf8 value))] := by
    apply List.splitOn_intercalate
    · intro part member
      obtain ⟨data, _, rfl⟩ := List.mem_map.mp member
      exact plain_encode data
    · exact List.cons_ne_nil _ _
  have tagLength := Gcm.length_authTag (encryptionKey secret) iv.val
    (Gcm.counterMode (encryptionKey secret) iv.val (utf8 value))
  have ciphertextLength := Gcm.length_counterMode (encryptionKey secret)
    iv.val (utf8 value)
  rw [unsealSecret, parts]
  simp only [encode_isEmpty, Base64Url.decode_encode]
  by_cases blank : value = []
  · have nothing : (Gcm.counterMode (encryptionKey secret) iv.val
        (utf8 value)).isEmpty = true := by
      rw [blank]
      rfl
    rw [if_pos blank, nothing, Bool.or_true, if_pos rfl]
  · have something : utf8 value ≠ [] := by
      intro empty
      exact blank (eq_of_utf8_eq rfl empty)
    have sealedAll : (iv.val.isEmpty || (Gcm.authTag (encryptionKey secret)
        iv.val (Gcm.counterMode (encryptionKey secret) iv.val
          (utf8 value))).isEmpty ||
        (Gcm.counterMode (encryptionKey secret) iv.val
          (utf8 value)).isEmpty) ≠ true := by
      simp only [ne_eq, Bool.or_eq_true, List.isEmpty_iff_length_eq_zero,
        iv.property, tagLength, ciphertextLength]
      have length := List.length_pos_iff.mpr something
      omega
    rw [if_neg blank, if_neg sealedAll, Gcm.decipher_authTag named,
      Option.map_some, ← utf8_toWellFormed,
      utf8Decode_utf8 (paired_toWellFormed value)]

/-- A drawn token is never empty. -/
theorem unsealSecret_randomUrlToken {count : Nat} (iv : RandomBytes 12)
    (drawn : RandomBytes count) (secret : JsString) (some : 0 < count) :
    unsealSecret (sealSecret iv (randomUrlToken drawn) secret) secret =
      .some (randomUrlToken drawn) := by
  rw [unsealSecret_sealSecret, if_neg (randomUrlToken_ne_nil drawn some),
    toWellFormed_of_paired (Paired.of_isAscii (isAscii_randomUrlToken drawn))]

end BidayaxExecutive.Identity
