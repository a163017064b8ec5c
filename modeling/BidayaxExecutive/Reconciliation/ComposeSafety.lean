import BidayaxExecutive.Reconciliation.Text
import BidayaxExecutive.Runtime.JsMap

/-!
# The compose safety check

The port mappings of a rendered compose text are collected by a scan over its
lines, and four of the reported invariants read nothing else.  The scan knows
items in double quotes and items of several fields; a line of any other shape
is passed over.
-/

namespace BidayaxExecutive.Reconciliation

open BidayaxExecutive.Runtime JsString

/-! ## Lines -/

def splitLines (renderedCompose : JsString) : List JsString :=
  (replaceLineEnds renderedCompose).splitOn 10

/-- `line.search(/\S/)`; `none` is -1. -/
def searchNonSpace (line : JsString) : Option Nat :=
  line.findIdx? fun unit => !isSpace unit

def isQuote (unit : UInt16) : Bool :=
  unit == 34 || unit == 39

def dropQuote (text : JsString) : JsString :=
  match text with
  | [] => []
  | unit :: rest => if isQuote unit then rest else unit :: rest

/-- One quote is taken from either end. -/
def stripYamlScalar (value : JsString) : JsString :=
  (dropQuote (dropQuote (trim value)).reverse).reverse

/-- `/^\s+ports:\s*$/`. -/
def isPortsLine (line : JsString) : Bool :=
  match line with
  | [] => false
  | first :: _ =>
      let rest := line.dropWhile isSpace
      isSpace first && (js "ports:").isPrefixOf rest && isBlank (rest.drop 6)

/-- The group of `/^\s*-\s*"([^"]+)"\s*$/`. -/
def quotedItem? (line : JsString) : Option JsString :=
  match line.dropWhile isSpace with
  | 45 :: item =>
      match item.dropWhile isSpace with
      | 34 :: quoted =>
          let text := quoted.takeWhile (· != 34)
          let after := (quoted.dropWhile (· != 34)).drop 1
          if quoted.contains 34 && !text.isEmpty && isBlank after then
            some text
          else none
      | _ => none
  | _ => none

/-- What `.` does not match. -/
def isLineTerminator (unit : UInt16) : Bool :=
  unit == 10 || unit == 13 || unit == 8232 || unit == 8233

/-- The group of `/\s*(.+)\s*$/` after a colon.  Where there is only white
space, the group takes a single unit of it. -/
def fieldValue? (text : JsString) : Option JsString :=
  let value := text.dropWhile isSpace
  if value.isEmpty then
    (text.reverse.find? fun unit => !isLineTerminator unit).map fun unit =>
      [unit]
  else if isBlank (value.dropWhile fun unit => !isLineTerminator unit) then
    some (value.takeWhile fun unit => !isLineTerminator unit)
  else none

def isKeyUnit (unit : UInt16) : Bool :=
  (65 ≤ unit && unit ≤ 90) || (97 ≤ unit && unit ≤ 122) || unit == 95

/-- The groups of `/([A-Za-z_]+):\s*(.+)\s*$/` at the start of a text. -/
def field? (text : JsString) : Option (JsString × JsString) :=
  let key := text.takeWhile isKeyUnit
  match text.dropWhile isKeyUnit with
  | 58 :: value =>
      if key.isEmpty then none
      else (fieldValue? value).map fun value => (key, value)
  | _ => none

/-- `/^\s*-\s+([A-Za-z_]+):\s*(.+)\s*$/`. -/
def longFormStart? (line : JsString) : Option (JsString × JsString) :=
  match line.dropWhile isSpace with
  | 45 :: unit :: item =>
      if isSpace unit then field? (item.dropWhile isSpace) else none
  | _ => none

/-- `/^\s+([A-Za-z_]+):\s*(.+)\s*$/`. -/
def longFormEntry? (line : JsString) : Option (JsString × JsString) :=
  match line with
  | [] => none
  | unit :: rest =>
      if isSpace unit then field? (rest.dropWhile isSpace) else none

/-! ## Port mappings -/

abbrev LongFormPort := JsMap JsString JsString

structure PortScan where
  mappings : List JsString := []
  portsIndent : Option Nat := none
  currentLongFormPort : Option LongFormPort := none

/-- A field that is there and not empty. -/
def presentField? (port : LongFormPort) (name : JsString) : Option JsString :=
  (port.get name).filter fun value => !value.isEmpty

def longFormMapping? (port : LongFormPort) : Option JsString := do
  let host ← presentField? port (js "host_ip")
  let published ← presentField? port (js "published")
  let target ← presentField? port (js "target")
  some (host ++ js ":" ++ published ++ js ":" ++ target)

def flushLongFormPort (scan : PortScan) : PortScan :=
  { scan with
    mappings := scan.mappings ++
      (scan.currentLongFormPort.bind longFormMapping?).toList
    currentLongFormPort := none }

/-- A line of a list of ports. -/
def scanPortLine (scan : PortScan) (line : JsString) : PortScan :=
  match quotedItem? line with
  | some text =>
      let flushed := flushLongFormPort scan
      { flushed with mappings := flushed.mappings ++ [text] }
  | none =>
      match longFormStart? line with
      | some (key, value) =>
          { flushLongFormPort scan with
            currentLongFormPort :=
              some (JsMap.empty.set key (stripYamlScalar value)) }
      | none =>
          match scan.currentLongFormPort, longFormEntry? line with
          | some port, some (key, value) =>
              { scan with
                currentLongFormPort :=
                  some (port.set key (stripYamlScalar value)) }
          | _, _ => scan

def scanLine (scan : PortScan) (line : JsString) : PortScan :=
  if isPortsLine line then
    { scan with portsIndent := searchNonSpace line }
  else
    match scan.portsIndent, searchNonSpace line with
    | none, _ => scan
    | some _, none => scan
    | some portsIndent, some currentIndent =>
        if currentIndent ≤ portsIndent then
          { flushLongFormPort scan with portsIndent := none }
        else scanPortLine scan line

def collectPortMappings (renderedCompose : JsString) : List JsString :=
  (flushLongFormPort <|
    (splitLines renderedCompose).foldl scanLine {}).mappings

/-! ## The invariants -/

inductive InvariantStatus where
  | passed
  | failed
  deriving DecidableEq, Repr

structure ComposeInvariantResult where
  invariant : JsString
  status : InvariantStatus
  evidence : List JsString
  deriving DecidableEq

def result (invariant : JsString) (passed : Bool) (evidence : List JsString) :
    ComposeInvariantResult where
  invariant := invariant
  status := if passed then .passed else .failed
  evidence := evidence

def executiveCardBinding : JsString := js "127.0.0.1:3100:3000"

def executiveDashboardBinding : JsString := js "127.0.0.1:3101:3001"

def allowedBindings : List JsString :=
  [executiveCardBinding, executiveDashboardBinding]

/-- `/(^|:)5432(?::|$)/`: a part between colons is the port. -/
def mentionsPostgresPort (binding : JsString) : Bool :=
  (binding.splitOn 58).contains (js "5432")

/-- `values.join(", ")`. -/
def joinComma (values : List JsString) : JsString :=
  (js ", ").intercalate values

/-- The results of `validateComposeSafety` that read the port mappings.  The
others read the names and settings of services, networks and volumes. -/
def validateComposePorts (renderedCompose : JsString) :
    List ComposeInvariantResult :=
  let portMappings := collectPortMappings renderedCompose
  let unexpectedBindings :=
    portMappings.filter fun binding => !allowedBindings.contains binding
  [result (js "card-loopback-binding")
      (portMappings.contains executiveCardBinding)
      [js "expected " ++ executiveCardBinding],
    result (js "dashboard-loopback-binding")
      (portMappings.contains executiveDashboardBinding)
      [js "expected " ++ executiveDashboardBinding],
    result (js "postgres-not-public")
      (!portMappings.any mentionsPostgresPort)
      [js "postgres host binding must remain absent"],
    result (js "no-added-public-listeners") unexpectedBindings.isEmpty
      [if unexpectedBindings.isEmpty then
        js "no unexpected public listeners detected"
      else js "unexpected bindings " ++ joinComma unexpectedBindings]]

/-- The check reports the invariant as passed. -/
def Reported (renderedCompose invariant : JsString) : Prop :=
  ∃ found ∈ validateComposePorts renderedCompose,
    found.invariant = invariant ∧ found.status = .passed

theorem status_result {invariant : JsString} {passed : Bool}
    {evidence : List JsString} :
    (result invariant passed evidence).status = .passed ↔ passed = true := by
  rw [result]
  cases passed with
  | true => exact iff_of_true rfl rfl
  | false => exact iff_of_false nofun nofun

theorem reported_postgres_iff (renderedCompose : JsString) :
    Reported renderedCompose (js "postgres-not-public") ↔
      ∀ binding ∈ collectPortMappings renderedCompose,
        mentionsPostgresPort binding = false := by
  rw [Reported, validateComposePorts]
  constructor
  · rintro ⟨found, member, name, passed⟩
    simp only [List.mem_cons, List.not_mem_nil, or_false] at member
    rcases member with rfl | rfl | rfl | rfl
    · have different : js "card-loopback-binding" ≠
          js "postgres-not-public" := by
        decide
      exact absurd name different
    · have different : js "dashboard-loopback-binding" ≠
          js "postgres-not-public" := by
        decide
      exact absurd name different
    · rw [status_result] at passed
      simpa using passed
    · have different : js "no-added-public-listeners" ≠
          js "postgres-not-public" := by
        decide
      exact absurd name different
  · intro absent
    refine ⟨_, List.mem_cons_of_mem _ (List.mem_cons_of_mem _
      List.mem_cons_self), rfl, status_result.mpr ?_⟩
    simpa using absent

theorem reported_listeners_iff (renderedCompose : JsString) :
    Reported renderedCompose (js "no-added-public-listeners") ↔
      ∀ binding ∈ collectPortMappings renderedCompose,
        binding ∈ allowedBindings := by
  have noneUnexpected : ((collectPortMappings renderedCompose).filter
      fun binding => !allowedBindings.contains binding).isEmpty = true ↔
        ∀ binding ∈ collectPortMappings renderedCompose,
          binding ∈ allowedBindings := by
    simp [List.filter_eq_nil_iff]
  rw [← noneUnexpected, Reported, validateComposePorts]
  constructor
  · rintro ⟨found, member, name, passed⟩
    simp only [List.mem_cons, List.not_mem_nil, or_false] at member
    rcases member with rfl | rfl | rfl | rfl
    · have different : js "card-loopback-binding" ≠
          js "no-added-public-listeners" := by
        decide
      exact absurd name different
    · have different : js "dashboard-loopback-binding" ≠
          js "no-added-public-listeners" := by
        decide
      exact absurd name different
    · have different : js "postgres-not-public" ≠
          js "no-added-public-listeners" := by
        decide
      exact absurd name different
    · exact status_result.mp passed
  · intro empty
    exact ⟨_, List.mem_cons_of_mem _ (List.mem_cons_of_mem _
      (List.mem_cons_of_mem _ List.mem_cons_self)), rfl,
      status_result.mpr empty⟩

end BidayaxExecutive.Reconciliation
