import BidayaxExecutive.Runtime.ObjectGraph
import BidayaxExecutive.Trust.CanonicalForm
import BidayaxExecutive.Trust.Validation

/-!
# Safe evidence attributes

A walk over a value of type `unknown` collects what makes it unsafe as
evidence, and the canonicalizer has the last word.  Where the walk skips
something the canonicalizer refuses it, with one exception: neither of them
looks at what an array holds under a numeral that is not an array index.
-/

namespace BidayaxExecutive.Trust

open BidayaxExecutive.Runtime JsString

variable {size : Nat}

/-- What the normalization of keys takes from the platform: NFKC, the classes
`\p{Letter}` and `\p{Number}` of a code point, and lower case. -/
structure EvidencePlatform where
  nfkc : JsString → JsString
  isLetterOrNumber : Nat → Bool
  toLowerCase : JsString → JsString

structure EvidenceSafetyLimits where
  maxDepth : JsNumber
  maxArrayLength : JsNumber
  maxObjectKeys : JsNumber
  maxStringLength : JsNumber
  maxSerializedSize : JsNumber

def evidenceSafetyLimits : EvidenceSafetyLimits where
  maxArrayLength := .integer 50
  maxDepth := .integer 6
  maxObjectKeys := .integer 80
  maxSerializedSize := .integer 16384
  maxStringLength := .integer 2048

/-! ## Keys -/

def prohibitedEvidenceKeyConcepts : List JsString :=
  [js "accessToken", js "address", js "audio", js "audioPayload",
    js "authorization", js "authorizationHeader", js "bankAccount",
    js "biometric", js "cookie", js "creditCard", js "email",
    js "fullMessageBody", js "csrf", js "governmentId", js "messageBody",
    js "password", js "paymentCard", js "phone", js "pkce", js "privateKey",
    js "prompt", js "providerToken", js "rawAudio", js "rawContent",
    js "rawPayload", js "recording", js "recoveryCode", js "refreshToken",
    js "response", js "secret", js "sessionToken",
    js "socialSecurityNumber", js "ssn", js "token", js "transcript",
    js "unredactedUserContent", js "userContent"]

/-- `/[\r\n\t]/g` becomes a space, and the key is cut off. -/
def pathWithKey (path key : JsString) : JsString :=
  path ++ js "." ++ (key.map fun unit =>
    if unit = 13 ∨ unit = 10 ∨ unit = 9 then 32 else unit).take 80

section Platform

variable (platform : EvidencePlatform)

/-- `text.replace(/[^\p{Letter}\p{Number}]/gu, "")`, code point by code
point. -/
def lettersAndNumbers : JsString → JsString
  | [] => []
  | [unit] =>
      if platform.isLetterOrNumber unit.toNat then [unit] else []
  | first :: second :: rest =>
      if isHighSurrogate first && isLowSurrogate second then
        if platform.isLetterOrNumber (0x10000 +
            (first.toNat - 0xD800) * 1024 + (second.toNat - 0xDC00)) then
          first :: second :: lettersAndNumbers rest
        else lettersAndNumbers rest
      else if platform.isLetterOrNumber first.toNat then
        first :: lettersAndNumbers (second :: rest)
      else lettersAndNumbers (second :: rest)

def normalizeEvidenceKey (key : JsString) : JsString :=
  platform.toLowerCase (lettersAndNumbers platform (platform.nfkc key))

def prohibitedEvidenceKeys : List JsString :=
  prohibitedEvidenceKeyConcepts.map (normalizeEvidenceKey platform)

def isProhibited (key : JsString) : Bool :=
  (prohibitedEvidenceKeys platform).contains
    (normalizeEvidenceKey platform key)

/-! ## The walk -/

variable (limits : EvidenceSafetyLimits)

def limitErrors (count : Nat) (limit : JsNumber) (error : JsString) :
    List JsString :=
  if exceeds count limit then [error] else []

/-- `Object.entries` leaves out what is not enumerable. -/
def isListed (kind : SlotKind) : Bool :=
  kind == .enumerable || kind == .accessor

def leafErrors (path : JsString) : JsValue → List JsString
  | .string text =>
      limitErrors text.length limits.maxStringLength
        (js "unsafe evidence string length at " ++ path)
  | _ => []

def undefinedLeaf : GraphValue size := .leaf ⟨.undefined, rfl⟩

/-- `node.entries()` has every index; a hole is `undefined`. -/
def collectElementErrors
    (visit : GraphValue size → JsString → List JsString) (path : JsString) :
    Nat → List (SlotKind × GraphValue size) → List JsString
  | _, [] => []
  | index, (kind, child) :: rest =>
      visit (if kind = .hole then undefinedLeaf else child)
          (indexedPath path index) ++
        collectElementErrors visit path (index + 1) rest

def collectPropertyErrors
    (visit : GraphValue size → JsString → List JsString) (path : JsString) :
    List (JsString × SlotKind × GraphValue size) → List JsString
  | [] => []
  | (key, kind, child) :: rest =>
      (if isListed kind then
          (if isProhibited platform key then
              [js "unsafe evidence attribute key at " ++ pathWithKey path key]
            else []) ++
            visit child (pathWithKey path key)
        else []) ++
        collectPropertyErrors visit path rest

def collectObjectErrors
    (visit : GraphValue size → JsString → List JsString) (path : JsString) :
    GraphObject size → List JsString
  | .array _ _ slots =>
      limitErrors slots.length limits.maxArrayLength
          (js "unsafe evidence array length at " ++ path) ++
        collectElementErrors visit path 0 slots
  | .object _ _ properties =>
      limitErrors
          (properties.filter fun property => isListed property.2.1).length
          limits.maxObjectKeys
          (js "unsafe evidence object key count at " ++ path) ++
        collectPropertyErrors platform visit path properties

variable (graph : ObjectGraph size)

/-- The errors of a node and of what is below it, in the order of the visit.
The bytes of a binary value are not modelled; the canonicalizer refuses it
whatever they are. -/
def collectEvidenceSafetyErrors (seen : Finset (Fin size)) (depth : Nat)
    (node : GraphValue size) (path : JsString) : List JsString :=
  if exceeds depth limits.maxDepth then
    [js "unsafe evidence attribute depth at " ++ path]
  else
    match node with
    | .leaf value => leafErrors limits path value.1
    | .reference address =>
        if _ : address ∈ seen then
          [js "unsafe evidence cycle at " ++ path]
        else
          collectObjectErrors platform limits
            (fun child childPath =>
              collectEvidenceSafetyErrors (insert address seen) (depth + 1)
                child childPath)
            path (graph.object address)
termination_by seenᶜ.card
decreasing_by exact card_compl_insert_lt ‹_›

end Platform

/-! ## Validation -/

/-- `value !== null && typeof value === "object" && !Array.isArray(value)`. -/
def isRecordValue (graph : ObjectGraph size) : GraphValue size → Bool
  | .leaf value => (value.1 matches .binary)
  | .reference address => (graph.object address matches .object _ _ _)

/-- The options of the canonicalizer. -/
def evidenceOptions (limits : EvidenceSafetyLimits) :
    CanonicalizationOptions where
  maxBytes := some limits.maxSerializedSize
  schemaVersion := js "safe-evidence-attributes-1"

def validateSafeEvidenceAttributes (host : Host)
    (platform : EvidencePlatform) (limits : EvidenceSafetyLimits)
    (graph : ObjectGraph size) (value : GraphValue size) :
    RuntimeValidation :=
  if !isRecordValue graph value then
    ⟨false, [js "evidence attributes must be an object"]⟩
  else
    validationOf <|
      collectEvidenceSafetyErrors platform limits graph ∅ 0 value
          (js "attributes") ++
        if (canonicalize host (graph.unfold ∅ value)
            (evidenceOptions limits)).isOk then []
        else
          [js "evidence attributes are not canonicalizable or exceed " ++
            js "the serialized size limit"]

end BidayaxExecutive.Trust
