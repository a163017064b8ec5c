import BidayaxExecutive.Runtime.Instant
import BidayaxExecutive.Runtime.JsonText
import BidayaxExecutive.Runtime.Utf8
import BidayaxExecutive.Trust.Failure

/-!
# Canonicalization

The canonical form of a value: strings in NFC with every timestamp moved to
UTC, `-0` as `0`, object keys in NFC and in code unit order.  Everything else a
caller can pass is refused, each with its own code, message and path.

The source walks an object in the order of the sorted keys and stops at the
first failure.  Here the children are canonicalized first, each to its own
outcome, and the walk over the sorted outcomes stops at the same failure.
-/

namespace BidayaxExecutive.Trust

open BidayaxExecutive.Runtime JsString

def canonicalizationVersion : JsString := js "bidayax-c14n-1"

def defaultMaxCanonicalBytes : Int := 1048576

structure CanonicalizationOptions where
  canonicalizationVersion : Option JsString := none
  maxBytes : Option JsNumber := none
  schemaVersion : JsString

structure Canonicalized where
  bytes : List UInt8
  canonicalizationVersion : JsString
  json : JsString
  schemaVersion : JsString
  deriving DecidableEq

/-! ## Timestamps -/

def skipDigits (count : Nat) (text : JsString) : Option JsString :=
  (readFixed count text).map Prod.snd

/-- `(?:\.\d{1,9})?`, which never has to give a digit back: what follows it in
the pattern is not a digit. -/
def skipFraction : JsString → Option JsString
  | [] => some []
  | unit :: rest =>
      if unit = 46 then
        if 1 ≤ (rest.takeWhile isDigit).length ∧
            (rest.takeWhile isDigit).length ≤ 9 then
          some (rest.dropWhile isDigit)
        else none
      else some (unit :: rest)

/-- `(?:Z|[+-]\d{2}:\d{2})$`. -/
def isZone : JsString → Bool
  | [] => false
  | unit :: rest =>
      if unit = 90 then rest.isEmpty
      else if unit = 43 ∨ unit = 45 then
        ((skipDigits 2 rest).bind (expectUnit 58)).bind (skipDigits 2) ==
          some []
      else false

/-- The shape of a timestamp up to its seconds. -/
def skipDateTime (text : JsString) : Option JsString :=
  (skipDigits 4 text).bind fun text =>
  (expectUnit 45 text).bind fun text =>
  (skipDigits 2 text).bind fun text =>
  (expectUnit 45 text).bind fun text =>
  (skipDigits 2 text).bind fun text =>
  (expectUnit 84 text).bind fun text =>
  (skipDigits 2 text).bind fun text =>
  (expectUnit 58 text).bind fun text =>
  (skipDigits 2 text).bind fun text =>
  (expectUnit 58 text).bind fun text =>
  skipDigits 2 text

def timestampPattern (text : JsString) : Bool :=
  match (skipDateTime text).bind skipFraction with
  | none => false
  | some rest => isZone rest

section Host

variable (host : Host)

def normalizeString (value : JsString) : Outcome JsString :=
  let normalized := host.nfc value
  if timestampPattern normalized then
    match host.dateParse normalized with
    | none =>
        .error <| .canonicalization .invalidTimestamp <|
          js "Invalid ISO timestamp: " ++ normalized
    | some instant => .ok (toISOString instant)
  else .ok normalized

def canonicalUtcTimestamp (value : JsString) : Outcome JsString :=
  if timestampPattern (host.nfc value) then normalizeString host value
  else
    .error <| .canonicalization .invalidTimestamp <|
      js "Timestamp must include an explicit UTC or offset designator: " ++
        value

/-! ## Nodes -/

def canonicalNumber (path : JsString) : JsNumber → Outcome Json
  | .nan | .infinity _ =>
      .error <| .canonicalization .nonFiniteNumber <|
        js "Non-finite numbers are forbidden at " ++ path
  | .fraction _ _ =>
      .error <| .canonicalization .floatingPointNumber <|
        js "Floating-point numbers are forbidden at " ++ path ++
          js "; use a decimal string"
  | .negativeZero => .ok (.number (.integer 0))
  | .integer value =>
      if JsNumber.isSafeInteger (.integer value) then
        .ok (.number (.integer value))
      else
        .error <| .canonicalization .unsafeInteger <|
          js "Unsafe integers are forbidden at " ++ path ++
            js "; use a decimal string"

def indexedPath (path : JsString) (index : Nat) : JsString :=
  path ++ js "[" ++ natText index ++ js "]"

def keyedPath (path key : JsString) : JsString :=
  path ++ js "." ++ key

/-- The descriptor checks of one own property. -/
def checkDescriptor (kind : SlotKind) (subject path : JsString) :
    Outcome Unit :=
  match kind with
  | .accessor =>
      .error <| .canonicalization .function <|
        js "Accessors are forbidden at " ++ path
  | .enumerable => .ok ()
  | .hidden | .hole =>
      .error <| .canonicalization .nonPlainObject <|
        js "Non-enumerable " ++ subject ++ js " are forbidden at " ++ path

/-- The index keys of an array; a hole has no key. -/
def checkSlots (path : JsString) :
    Nat → List (SlotKind × JsValue) → Outcome Unit
  | _, [] => .ok ()
  | index, (kind, _) :: rest => do
      if kind ≠ .hole then
        checkDescriptor kind (js "array elements") (indexedPath path index)
      checkSlots path (index + 1) rest

/-- `/^(0|[1-9]\d*)$/`. -/
def isNumeral (key : JsString) : Bool :=
  match key with
  | [] => false
  | unit :: rest =>
      if unit = 48 then rest.isEmpty
      else isDigit unit && rest.all isDigit

/-- The remaining own keys of an array.  A numeral beyond the array indices
passes and its value is never read. -/
def checkNamed (path : JsString) :
    List (JsString × SlotKind) → Outcome Unit
  | [] => .ok ()
  | (key, kind) :: rest => do
      if isNumeral key then
        checkDescriptor kind (js "array elements")
          (path ++ js "[" ++ key ++ js "]")
      else
        throw <| .canonicalization .nonPlainObject <|
          js "Named array properties are forbidden at " ++ keyedPath path key
      checkNamed path rest

def checkProperties (path : JsString) :
    List (JsString × SlotKind × JsValue) → Outcome Unit
  | [] => .ok ()
  | (key, kind, _) :: rest => do
      checkDescriptor kind (js "properties") (keyedPath path key)
      checkProperties path rest

/-- The loop over the sorted entries, with the collision check against the
previous key. -/
def collectEntries (path : JsString) :
    Option JsString → List (JsString × Outcome Json) →
      Outcome (List (JsString × Json))
  | _, [] => .ok []
  | previous, (key, outcome) :: rest => do
      if previous = some key then
        throw <| .canonicalization .normalizedKeyCollision <|
          js "NFC key collision at " ++ keyedPath path key
      let value ← outcome
      let fields ← collectEntries path (some key) rest
      .ok ((key, value) :: fields)

mutual

def canonicalNode : JsValue → JsString → Outcome Json
  | .null, _ => .ok .null
  | .string value, _ => do
      let normalized ← normalizeString host value
      .ok (.string normalized)
  | .boolean value, _ => .ok (.boolean value)
  | .undefined, path =>
      .error <| .canonicalization .undefined <|
        js "Undefined is forbidden at " ++ path
  | .function, path =>
      .error <| .canonicalization .function <|
        js "Functions are forbidden at " ++ path
  | .symbol, path =>
      .error <| .canonicalization .symbol <|
        js "Symbols are forbidden at " ++ path
  | .bigint _, path =>
      .error <| .canonicalization .bigint <|
        js "BigInts are forbidden at " ++ path ++ js "; use a decimal string"
  | .number value, path => canonicalNumber path value
  | .binary, path =>
      .error <| .canonicalization .binary <|
        js "Binary values are forbidden at " ++ path
  | .cycle, path =>
      .error <| .canonicalization .cycle <| js "Cycle detected at " ++ path
  | .array symbolKeyed named slots, path => do
      if symbolKeyed then
        throw <| .canonicalization .symbol <|
          js "Symbol keys are forbidden at " ++ path
      checkSlots path 0 slots
      checkNamed path named
      let elements ← canonicalSlots slots path 0
      .ok (.array elements)
  | .object prototype symbolKeyed properties, path => do
      if prototype = .other then
        throw <| .canonicalization .nonPlainObject <|
          js "Only plain objects are permitted at " ++ path
      if symbolKeyed then
        throw <| .canonicalization .symbol <|
          js "Symbol keys are forbidden at " ++ path
      checkProperties path properties
      let fields ← collectEntries path none <|
        sortOn Prod.fst (canonicalEntries properties path)
      .ok (.object (ownPropertyOrder fields))

def canonicalSlots :
    List (SlotKind × JsValue) → JsString → Nat → Outcome (List Json)
  | [], _, _ => .ok []
  | (kind, value) :: rest, path, index => do
      if kind = .hole then
        throw <| .canonicalization .undefined <|
          js "Sparse arrays are forbidden at " ++ indexedPath path index
      let element ← canonicalNode value (indexedPath path index)
      let elements ← canonicalSlots rest path (index + 1)
      .ok (element :: elements)

/-- The normalized key of every property with the outcome of its value. -/
def canonicalEntries :
    List (JsString × SlotKind × JsValue) → JsString →
      List (JsString × Outcome Json)
  | [], _ => []
  | (key, _, value) :: rest, path =>
      (host.nfc key, canonicalNode value (keyedPath path (host.nfc key))) ::
        canonicalEntries rest path

end

def canonicalize (value : JsValue) (options : CanonicalizationOptions) :
    Outcome Canonicalized := do
  if options.canonicalizationVersion.getD canonicalizationVersion ≠
      canonicalizationVersion then
    throw <| .canonicalization .unsupportedVersion <|
      js "Unsupported canonicalization version"
  if isBlank options.schemaVersion then
    throw <| .canonicalization .invalidSchemaVersion <|
      js "Schema version is required"
  let maxBytes := options.maxBytes.getD (.integer defaultMaxCanonicalBytes)
  match maxBytes.isSafeInteger, maxBytes.toInt? with
  | true, some limit =>
      if limit ≤ 0 then
        throw <| .canonicalization .invalidMaxBytes <|
          js "maxBytes must be a positive safe integer"
      let node ← canonicalNode host value (js "$")
      let json := jsonStringify node
      let bytes := utf8 json
      if limit < bytes.length then
        throw <| .canonicalization .maxBytesExceeded <|
          js "Canonical form is " ++ natText bytes.length ++
            js " bytes; maximum is " ++ maxBytes.text
      .ok ⟨bytes, canonicalizationVersion, json, options.schemaVersion⟩
  | _, _ =>
      throw <| .canonicalization .invalidMaxBytes <|
        js "maxBytes must be a positive safe integer"

end Host

end BidayaxExecutive.Trust
