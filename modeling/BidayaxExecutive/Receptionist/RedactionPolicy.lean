import BidayaxExecutive.Library.Replacement
import BidayaxExecutive.Runtime.JsValue
import BidayaxExecutive.Runtime.RegularExpressions

/-!
# Redaction policy

Secrets, e-mail addresses, phone numbers and links are replaced by tokens, one
pattern after the other, and the text is cut to the length of a preview.
-/

namespace BidayaxExecutive.Receptionist

open BidayaxExecutive.Runtime JsString
open BidayaxExecutive.Library.Backtracking
open BidayaxExecutive.Library.Backtracking.Regex

structure RuntimeRedactionPolicy where
  redactEmails : Bool
  redactLinks : Bool
  redactPhoneNumbers : Bool
  redactSecrets : Bool
  transcriptPreviewMaxLength : JsNumber
  deriving DecidableEq

def defaultRuntimeRedactionPolicy : RuntimeRedactionPolicy where
  redactEmails := true
  redactLinks := true
  redactPhoneNumbers := true
  redactSecrets := true
  transcriptPreviewMaxLength := .integer 240

structure RuntimeRedactionResult where
  applied : List JsString
  policy : RuntimeRedactionPolicy
  redactedText : JsString
  deriving DecidableEq

/-! ## Patterns -/

/-- `[:=]?`, the mark between a name and its value. -/
def assigns : Regex UInt16 :=
  optional (one (anyOf (js ":=")))

/-- `[\s_-]*`. -/
def joints : Regex UInt16 :=
  star true (one fun unit => isSpace unit || anyOf (js "_-") unit)

/-- `[A-Z ]+`. -/
def capitalsAndSpaces : Regex UInt16 :=
  plus (one fun unit => (65 ≤ unit && unit ≤ 90) || unit == 32)

def secretPatterns : List (Regex UInt16) :=
  [sequence [folded (js "api"), joints, folded (js "key"), spaces, assigns,
      spaces, someText],
    sequence [folded (js "authorization"), spaces, literal (js ":"), spaces,
      folded (js "bearer"), someSpaces, someText],
    sequence [folded (js "bearer"), someSpaces,
      plus (one fun unit => isLetterUnit unit || isDigitUnit unit ||
        anyOf (js "._~+/-") unit),
      star true (literal (js "="))],
    sequence [folded (js "cookie"), spaces, literal (js ":"), spaces,
      someText],
    sequence [folded (js "password"), spaces, assigns, spaces, someText],
    sequence [folded (js "secret"), spaces, assigns, spaces, someText],
    sequence [choice (folded (js "client"))
        [folded (js "access"), folded (js "refresh")], joints,
      folded (js "token"), spaces, assigns, spaces, someText],
    sequence [literal (js "-----BEGIN "), capitalsAndSpaces,
      literal (js "PRIVATE KEY-----"), star false (one fun _ => true),
      literal (js "-----END "), capitalsAndSpaces,
      literal (js "PRIVATE KEY-----")]]

/-- `[A-Z0-9._%+-]+`. -/
def localPart : Regex UInt16 :=
  plus (one fun unit =>
    isLetterUnit unit || isDigitUnit unit || anyOf (js "._%+-") unit)

/-- `[A-Z0-9.-]+`. -/
def domainPart : Regex UInt16 :=
  plus (one fun unit =>
    isLetterUnit unit || isDigitUnit unit || anyOf (js ".-") unit)

/-- `[A-Z]{2,}`. -/
def topLevel : Regex UInt16 :=
  times 2 (one isLetterUnit) (star true (one isLetterUnit))

/-- `(\[word\]|\(word\)|\sword\s)`. -/
def spelledOut (word : JsString) : Regex UInt16 :=
  choice (sequence [literal (js "["), folded word, literal (js "]")])
    [sequence [literal (js "("), folded word, literal (js ")")],
      sequence [one isSpace, folded word, one isSpace]]

/-- An address with the parts between which its marks stand. -/
def addressPattern (at_ dot : Regex UInt16) : Regex UInt16 :=
  sequence [localPart, spaces, at_, spaces, domainPart, spaces, dot, spaces,
    topLevel]

def emailPatterns : List (Regex UInt16) :=
  [addressPattern (literal (js "@")) (literal (js ".")),
    addressPattern (spelledOut (js "at")) (spelledOut (js "dot")),
    addressPattern (one (· == 0xFF20)) (one (· == 0xFF0E))]

def phonePatterns : List (Regex UInt16) :=
  [sequence [optional (one fun unit => unit == 43 || unit == 0xFF0B),
      one isDigitUnit,
      times 7 (one fun unit => isDigitUnit unit || isSpace unit ||
          anyOf (js "().-") unit)
        (star true (one fun unit => isDigitUnit unit || isSpace unit ||
          anyOf (js "().-") unit)),
      one isDigitUnit],
    sequence [edge isAsciiWordUnit,
      times 9 (seq (one isDigitUnit) (star true
          (one fun unit => isSpace unit || anyOf (js ".-") unit)))
        (star true (seq (one isDigitUnit) (star true
          (one fun unit => isSpace unit || anyOf (js ".-") unit)))),
      edge isAsciiWordUnit]]

/-- `https?:\/\/\S+`. -/
def linkPattern : Regex UInt16 :=
  sequence [folded (js "http"), optional (folded (js "s")),
    literal (js "://"), someText]

/-! ## Passes -/

def secretToken : JsString := js "[REDACTED_SECRET]"

def emailToken : JsString := js "[REDACTED_EMAIL]"

def phoneToken : JsString := js "[REDACTED_PHONE]"

def linkToken : JsString := js "[REDACTED_LINK]"

def applyPatterns (input : JsString) (patterns : List (Regex UInt16))
    (replacement : JsString) : JsString :=
  patterns.foldl (fun current pattern =>
    replaceAll pattern replacement current) input

/-- A pass that is switched on, and the code it notes when it changes the
text. -/
def redactionPass (enabled : Bool) (patterns : List (Regex UInt16))
    (replacement code : JsString) (state : List JsString × JsString) :
    List JsString × JsString :=
  if enabled then
    let next := applyPatterns state.2 patterns replacement
    (if next != state.2 then state.1 ++ [code] else state.1, next)
  else state

/-- `Math.min`. -/
def mathMin (left right : JsNumber) : JsNumber :=
  if left = .nan ∨ right = .nan then .nan
  else if left.lessOrEqual right then left else right

/-- `Math.max`. -/
def mathMax (left right : JsNumber) : JsNumber :=
  if left = .nan ∨ right = .nan then .nan
  else if right.lessOrEqual left then left else right

/-- The end of a slice of a text from its start, for a number that is not
negative. -/
def sliceEnd (number : JsNumber) (length : Nat) : Nat :=
  match number with
  | .infinity false => length
  | .integer value => value.toNat
  | .fraction value _ => value.floor.toNat
  | _ => 0

def resolveRedactionPolicy (policy : Option RuntimeRedactionPolicy) :
    RuntimeRedactionPolicy :=
  let given := policy.getD defaultRuntimeRedactionPolicy
  { given with
    transcriptPreviewMaxLength :=
      mathMax (.integer 0)
        (mathMin given.transcriptPreviewMaxLength (.integer 240)) }

/-- `normalize` is `String.prototype.normalize` with the form `NFKC`. -/
def redactRuntimeText (normalize : JsString → JsString) (input : JsString)
    (policy : Option RuntimeRedactionPolicy) : RuntimeRedactionResult :=
  let resolved := resolveRedactionPolicy policy
  let redacted :=
    redactionPass resolved.redactLinks [linkPattern] linkToken
        (js "LINK_REDACTION_APPLIED") <|
      redactionPass resolved.redactPhoneNumbers phonePatterns phoneToken
          (js "PHONE_REDACTION_APPLIED") <|
        redactionPass resolved.redactEmails emailPatterns emailToken
            (js "EMAIL_REDACTION_APPLIED") <|
          redactionPass resolved.redactSecrets secretPatterns secretToken
            (js "SECRET_REDACTION_APPLIED") ([], normalize input)
  { applied :=
      if redacted.1.isEmpty then [js "NO_REDACTION_REQUIRED"]
      else redacted.1
    policy := resolved
    redactedText := redacted.2.take
      (sliceEnd resolved.transcriptPreviewMaxLength redacted.2.length) }

end BidayaxExecutive.Receptionist
