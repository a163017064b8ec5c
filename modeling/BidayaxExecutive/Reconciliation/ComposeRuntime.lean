import BidayaxExecutive.Reconciliation.ComposeSafety

/-!
# The runtime environment of a compose text

The check takes the lines behind the first line that names a service, looks in
them for the first line that sets a variable, and excuses a variable that no
line sets when the lines list an approved file of variables.
-/

namespace BidayaxExecutive.Reconciliation

open BidayaxExecutive.Runtime JsString

/-! ## Sections and blocks -/

def startsWithSpace (line : JsString) : Bool :=
  line.head? == some 32

/-- The lines under a line with the name and a colon. -/
def getSectionLines (lines : List JsString) (sectionName : JsString) :
    List JsString :=
  ((lines.dropWhile fun line =>
      !(trim line == sectionName ++ js ":" && !startsWithSpace line)).drop
    1).takeWhile fun line => line.isEmpty || startsWithSpace line

/-- `[A-Za-z0-9_-]`. -/
def isChildUnit (unit : UInt16) : Bool :=
  isDigit unit || isKeyUnit unit || unit == 45

/-- The group of `/^ {2}([A-Za-z0-9_-]+):\s*$/`. -/
def namedChild? (line : JsString) : Option JsString :=
  match line with
  | 32 :: 32 :: rest =>
      match rest.dropWhile isChildUnit with
      | 58 :: after =>
          if !(rest.takeWhile isChildUnit).isEmpty && isBlank after then
            some (rest.takeWhile isChildUnit)
          else none
      | _ => none
  | _ => none

def getNamedChildren (sectionLines : List JsString) : List JsString :=
  sectionLines.filterMap namedChild?

/-- A line that the check takes for the name of a child. -/
def namesChild (childName line : JsString) : Bool :=
  trim line == childName ++ js ":" && (js "  ").isPrefixOf line

/-- The lines up to the next child. -/
def untilChild (lines : List JsString) : List JsString :=
  lines.takeWhile fun line => (namedChild? line).isNone

def getNamedChildBlock (sectionLines : List JsString) (childName : JsString) :
    List JsString :=
  untilChild
    ((sectionLines.dropWhile fun line => !namesChild childName line).drop 1)

/-! ## Variables -/

/-- The group of `/\s*(.+)$/` with the flag `m`.  Where there is only white
space, the group takes a single unit of it. -/
def valueToLineEnd? (text : JsString) : Option JsString :=
  let value := text.dropWhile isSpace
  if value.isEmpty then
    (text.reverse.find? fun unit => !isLineTerminator unit).map fun unit =>
      [unit]
  else some (value.takeWhile fun unit => !isLineTerminator unit)

/-- The rest of a text behind what it starts with. -/
def behind? (start text : JsString) : Option JsString :=
  if start.isPrefixOf text then some (text.drop start.length) else none

/-- `/^\s+variable:\s*(.+)$/m` at the start of a line. -/
def mappingMatch? (name text : JsString) : Option JsString :=
  if text.head?.any isSpace then
    (behind? (name ++ js ":") (text.dropWhile isSpace)).bind
      valueToLineEnd?
  else none

/-- `(.+)$` with the flag `m`. -/
def restOfLine? (text : JsString) : Option JsString :=
  let value := text.takeWhile fun unit => !isLineTerminator unit
  if value.isEmpty then none else some value

/-- `/^\s*-\s+variable=(.+)$/m` at the start of a line. -/
def listMatch? (name text : JsString) : Option JsString :=
  match text.dropWhile isSpace with
  | 45 :: unit :: item =>
      if isSpace unit then
        (behind? (name ++ js "=") (item.dropWhile isSpace)).bind
          restOfLine?
      else none
  | _ => none

/-- The first match at the start of a line, in a text that starts there or
not. -/
def firstAtLineStart (atStart : JsString → Option JsString) :
    Bool → JsString → Option JsString
  | lineStart, [] => if lineStart then atStart [] else none
  | lineStart, unit :: rest =>
      (if lineStart then atStart (unit :: rest) else none).or
        (firstAtLineStart atStart (isLineTerminator unit) rest)

def findEnvironmentValue (renderedCompose name : JsString) :
    Option JsString :=
  match firstAtLineStart (mappingMatch? name) true renderedCompose with
  | some value => some (stripYamlScalar value)
  | none =>
      (firstAtLineStart (listMatch? name) true renderedCompose).map
        stripYamlScalar

/-- `block.join("\n")`. -/
def joinLines (block : List JsString) : JsString :=
  [10].intercalate block

def findEnvironmentValueInBlock (block : List JsString) (name : JsString) :
    Option JsString :=
  findEnvironmentValue (joinLines block) name

/-- No unit beyond ASCII is one of these words in lower case. -/
def isFalseLike (value : Option JsString) : Bool :=
  value.any fun value =>
    [js "0", js "false", js "no", js "off", js "disabled"].contains
      (lowerCase (trim value))

def isTrueLike (value : Option JsString) : Bool :=
  value.any fun value =>
    [js "1", js "true", js "yes", js "on", js "enabled"].contains
      (lowerCase (trim value))

/-! ## Files of variables -/

/-- `/^\s+key:\s*$/`. -/
def isKeyLine (key line : JsString) : Bool :=
  line.head?.any isSpace &&
    (behind? (key ++ js ":") (line.dropWhile isSpace)).any isBlank

/-- `/^\s+env_file:\s*$/`. -/
def isEnvFileLine (line : JsString) : Bool :=
  isKeyLine (js "env_file") line

/-- The group of `/^\s*-\s*(.+)\s*$/`. -/
def listItem? (line : JsString) : Option JsString :=
  match line.dropWhile isSpace with
  | 45 :: item => fieldValue? item
  | _ => none

structure EnvFileScan where
  envFiles : List JsString := []
  envFileIndent : Option Nat := none

def scanEnvFileLine (scan : EnvFileScan) (line : JsString) : EnvFileScan :=
  if isEnvFileLine line then
    { scan with envFileIndent := searchNonSpace line }
  else
    match scan.envFileIndent, searchNonSpace line with
    | none, _ => scan
    | some _, none => scan
    | some envFileIndent, some currentIndent =>
        if currentIndent ≤ envFileIndent then
          { scan with envFileIndent := none }
        else
          { scan with
            envFiles := scan.envFiles ++
              ((listItem? line).map stripYamlScalar).toList }

def collectEnvFiles (block : List JsString) : List JsString :=
  (block.foldl scanEnvFileLine {}).envFiles

def approvedRuntimeEnvFiles : List JsString :=
  [js ("$\x7bEXECUTIVE_CARD_ENV_FILE:-/opt/the-executive-card/shared/env/" ++
      "production.env\x7d"),
    js "/opt/the-executive-card/shared/env/production.env"]

def hasApprovedRuntimeEnvFile (block : List JsString) : Bool :=
  (collectEnvFiles block).any approvedRuntimeEnvFiles.contains

/-! ## The check -/

/-- A variable and the values of it that are accepted. -/
structure RuntimeVariable where
  name : JsString
  accepts : Option JsString → Bool

def expectedValue (name value : JsString) : RuntimeVariable where
  name := name
  accepts := fun received => received == some value

def falseLike (name : JsString) : RuntimeVariable where
  name := name
  accepts := isFalseLike

def trueLike (name : JsString) : RuntimeVariable where
  name := name
  accepts := isTrueLike

def runtimeVariables : List RuntimeVariable :=
  [expectedValue (js "TELEPHONY_PROVIDER") (js "mock"),
    expectedValue (js "TELEPHONY_PROVIDER_MODE") (js "disabled"),
    expectedValue (js "VOICE_RUNTIME_PROVIDER") (js "none"),
    falseLike (js "VOICE_AGENT_ENABLED"),
    falseLike (js "LIVE_INBOUND_CALLS_ENABLED"),
    falseLike (js "OUTBOUND_CALLS_ENABLED"),
    falseLike (js "ALLOW_PRODUCTION_CALLS"),
    falseLike (js "CALL_TRANSFER_ENABLED"),
    falseLike (js "VOICE_RECORDING_DISCLOSURE_ENABLED"),
    trueLike (js "VOICE_TEST_MODE"),
    trueLike (js "REQUIRE_HUMAN_APPROVAL")]

def checkedServices : List JsString :=
  [js "card", js "dashboard"]

/-- A variable that is neither excused nor accepted. -/
def runtimeFailure? (service : JsString) (block : List JsString)
    (checked : RuntimeVariable) : Option JsString :=
  let received := findEnvironmentValueInBlock block checked.name
  if received.isNone && hasApprovedRuntimeEnvFile block then none
  else if checked.accepts received then none
  else some (service ++ js "." ++ checked.name ++ js "=" ++
    received.getD (js "<missing>"))

def collectRuntimeEnvironmentFailures (servicesSection : List JsString) :
    List JsString :=
  checkedServices.flatMap fun service =>
    runtimeVariables.filterMap
      (runtimeFailure? service (getNamedChildBlock servicesSection service))

def servicesSection (renderedCompose : JsString) : List JsString :=
  getSectionLines (splitLines renderedCompose) (js "services")

/-- The result of `validateComposeSafety` that reads the environments. -/
def validateRuntimeEnvironment (renderedCompose : JsString) :
    ComposeInvariantResult :=
  let runtimeEnvironmentFailures :=
    collectRuntimeEnvironmentFailures (servicesSection renderedCompose)
  result (js "production-communications-disabled")
    runtimeEnvironmentFailures.isEmpty
    [if runtimeEnvironmentFailures.isEmpty then
      js ("card and dashboard runtime communication controls remain " ++
        "production-disabled")
    else js "unsafe or missing runtime environment values: " ++
      joinComma runtimeEnvironmentFailures]

/-! ## The settings of a service -/

/-- The lines of a service: those behind its own line. -/
def ownBlock (sectionLines : List JsString) (service : JsString) :
    List JsString :=
  untilChild ((sectionLines.dropWhile fun line =>
    namedChild? line != some service).drop 1)

/-- How deep the keys of a block stand: as deep as its first line. -/
def blockIndent (block : List JsString) : Nat :=
  (block.findSome? searchNonSpace).getD 0

/-- The key of a setting of the block itself. -/
def isOwnKey (block : List JsString) (key line : JsString) : Bool :=
  isKeyLine key line && searchNonSpace line == some (blockIndent block)

/-- Empty, or deeper than the keys of the block. -/
def isNested (indent : Nat) (line : JsString) : Bool :=
  (searchNonSpace line).all fun deeper => indent < deeper

def settingsUnder (block : List JsString) (key : JsString) : List JsString :=
  ((block.dropWhile fun line => !isOwnKey block key line).drop 1).takeWhile
    (isNested (blockIndent block))

/-- A scalar, in quotes or plain. -/
def yamlScalar (text : JsString) : JsString :=
  match trim text with
  | [] => []
  | first :: rest =>
      if isQuote first && rest.getLast? == some first then rest.dropLast
      else first :: rest

/-- The parts before and behind the first mark. -/
def splitAtMark? (mark : UInt16) (text : JsString) :
    Option (JsString × JsString) :=
  match text.dropWhile (· != mark) with
  | _ :: after => some (text.takeWhile (· != mark), after)
  | [] => none

/-- The variable that a line of an environment sets, and its value. -/
def setting? (line : JsString) : Option (JsString × JsString) :=
  match line.dropWhile isSpace with
  | 45 :: item => splitAtMark? 61 (yamlScalar item)
  | content => (splitAtMark? 58 content).map fun entry =>
      (yamlScalar entry.1, yamlScalar entry.2)

def ownEnvironment (block : List JsString) : List (JsString × JsString) :=
  (settingsUnder block (js "environment")).filterMap setting?

def ownEnvFiles (block : List JsString) : List JsString :=
  (settingsUnder block (js "env_file")).filterMap fun line =>
    (listItem? line).map yamlScalar

/-- What the service sets the variable to is accepted, and where it does not
set it, an approved file is its own. -/
structure Settled (sectionLines : List JsString) (service : JsString)
    (checked : RuntimeVariable) : Prop where
  accepted : ∀ value,
    (checked.name, value) ∈ ownEnvironment (ownBlock sectionLines service) →
      checked.accepts (some value) = true
  excused : (∀ value,
      (checked.name, value) ∉ ownEnvironment (ownBlock sectionLines service)) →
    ∃ file ∈ ownEnvFiles (ownBlock sectionLines service),
      file ∈ approvedRuntimeEnvFiles

/-! ## Plain settings -/

/-- Behind white space the line begins with the name and a colon. -/
def beginsField (name line : JsString) : Bool :=
  (name ++ js ":").isPrefixOf (line.dropWhile isSpace)

/-- What a line holds behind white space and a dash, if there is one. -/
def withoutDash (line : JsString) : JsString :=
  match line.dropWhile isSpace with
  | 45 :: item => item.dropWhile isSpace
  | content => content

/-- Behind a dash the line begins with the name and an equals sign. -/
def beginsItem (name line : JsString) : Bool :=
  (name ++ js "=").isPrefixOf (withoutDash line)

/-- `  name: value`. -/
def isPlainField (name value line : JsString) : Bool :=
  line.head?.any isSpace &&
    (behind? (name ++ js ":") (line.dropWhile isSpace)).any fun text =>
      !isBlank text && stripYamlScalar text == value

/-- `  - name=value`. -/
def isPlainItem (name value line : JsString) : Bool :=
  match line.dropWhile isSpace with
  | 45 :: unit :: item =>
      isSpace unit &&
        behind? (name ++ js "=") (item.dropWhile isSpace) == some value &&
        !value.isEmpty && stripYamlScalar value == value
  | _ => false

/-- The first line of the block that begins with the variable is a line of the
environment, which sets it once. -/
structure PlainlySet (block : List JsString) (name value : JsString) :
    Prop where
  placed : ∃ line ∈ settingsUnder block (js "environment"),
    setting? line = some (name, value) ∧
    (isPlainField name value line = true ∧
        block.find? (beginsField name) = some line ∨
      isPlainItem name value line = true ∧
        block.find? (beginsField name) = none ∧
        block.find? (beginsItem name) = some line)
  once : ∀ entry ∈ ownEnvironment block, entry.1 = name → entry.2 = value

/-- No line of the block begins with the variable, the environment does not
set it, and the files of the block are its own. -/
structure PlainlyUnset (block : List JsString) (name : JsString) : Prop where
  noField : ∀ line ∈ block, beginsField name line = false
  noItem : ∀ line ∈ block, beginsItem name line = false
  unset : ∀ entry ∈ ownEnvironment block, entry.1 ≠ name
  ownFiles : ∀ line ∈ block, isEnvFileLine line = true →
    isOwnKey block (js "env_file") line = true
  once : (block.filter isEnvFileLine).length ≤ 1
  scalars : ∀ line ∈ settingsUnder block (js "env_file"),
    ∀ item ∈ listItem? line, stripYamlScalar item = yamlScalar item

/-- No earlier line names the service, and the variable is plainly set or
plainly not set in its block. -/
structure PlainlyPlaced (sectionLines : List JsString)
    (service name : JsString) : Prop where
  first : ∀ line ∈ sectionLines.takeWhile fun line =>
    namedChild? line != some service, namesChild service line = false
  oneLine : ∀ line ∈ ownBlock sectionLines service,
    line.any isLineTerminator = false
  setting : (∃ entry ∈ ownEnvironment (ownBlock sectionLines service),
      PlainlySet (ownBlock sectionLines service) name entry.2) ∨
    PlainlyUnset (ownBlock sectionLines service) name

instance (block : List JsString) (name value : JsString) :
    Decidable (PlainlySet block name value) :=
  decidable_of_iff (_ ∧ _)
    ⟨fun parts => ⟨parts.1, parts.2⟩, fun plain => ⟨plain.placed, plain.once⟩⟩

instance (block : List JsString) (name : JsString) :
    Decidable (PlainlyUnset block name) :=
  decidable_of_iff (_ ∧ _ ∧ _ ∧ _ ∧ _ ∧ _)
    ⟨fun parts => ⟨parts.1, parts.2.1, parts.2.2.1, parts.2.2.2.1,
      parts.2.2.2.2.1, parts.2.2.2.2.2⟩,
    fun plain => ⟨plain.noField, plain.noItem, plain.unset, plain.ownFiles,
      plain.once, plain.scalars⟩⟩

instance (sectionLines : List JsString) (service name : JsString) :
    Decidable (PlainlyPlaced sectionLines service name) :=
  decidable_of_iff (_ ∧ _ ∧ _)
    ⟨fun parts => ⟨parts.1, parts.2.1, parts.2.2⟩,
    fun placed => ⟨placed.first, placed.oneLine, placed.setting⟩⟩

end BidayaxExecutive.Reconciliation
