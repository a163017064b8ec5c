import Mathlib.Data.List.Perm.Basic
import BidayaxExecutive.Library.Separator
import BidayaxExecutive.Reconciliation.ComposeSafety
import BidayaxExecutive.Runtime.Decimal

/-!
# Rendered compose texts

Services with a list of ports each, as `docker compose config` indents them.
An entry of the list is a scalar in one of the three quotings or a block of
fields in any order.  Lines with other settings may stand around the lists.
-/

namespace BidayaxExecutive.Reconciliation

open BidayaxExecutive.Runtime JsString

/-! ## Scalars -/

/-- The units from `-` to `z`. -/
def isScalarUnit (unit : UInt16) : Bool :=
  45 ≤ unit && unit ≤ 122

structure ScalarText (text : JsString) : Prop where
  nonempty : text ≠ []
  units : ∀ unit ∈ text, isScalarUnit unit = true

inductive Quoting where
  | plain
  | single
  | double
  deriving DecidableEq, Repr

def Quoting.apply (quoting : Quoting) (text : JsString) : JsString :=
  match quoting with
  | plain => text
  | single => 39 :: (text ++ [39])
  | double => 34 :: (text ++ [34])

/-! ## Port entries -/

/-- The digits, `A` to `F` in either case and the units `.`, `:`, `[`, `]`. -/
def isAddressUnit (unit : UInt16) : Bool :=
  isDigit unit || (65 ≤ unit && unit ≤ 70) || (97 ≤ unit && unit ≤ 102) ||
    unit == 46 || unit == 58 || unit == 91 || unit == 93

structure HostAddress where
  text : JsString
  nonempty : text ≠ []
  units : ∀ unit ∈ text, isAddressUnit unit = true
  deriving DecidableEq

/-- A port, or the ports from the first to the last. -/
structure PortRange where
  first : Nat
  last : Option Nat
  ordered : ∀ port ∈ last, first < port
  deriving DecidableEq

def PortRange.single (port : Nat) : PortRange :=
  ⟨port, none, nofun⟩

def PortRange.text (ports : PortRange) : JsString :=
  natText ports.first ++
    match ports.last with
    | none => []
    | some last => 45 :: natText last

def PortRange.Covers (ports : PortRange) (port : Nat) : Prop :=
  match ports.last with
  | none => ports.first = port
  | some last => ports.first ≤ port ∧ port ≤ last

inductive PortProtocol where
  | tcp
  | udp
  deriving DecidableEq, Repr

def PortProtocol.text : PortProtocol → JsString
  | tcp => js "tcp"
  | udp => js "udp"

inductive PortMode where
  | ingress
  | host
  deriving DecidableEq, Repr

def PortMode.text : PortMode → JsString
  | ingress => js "ingress"
  | host => js "host"

/-- `[[IP:]HOST:]CONTAINER[/PROTOCOL]`. -/
structure ShortPort where
  hostIp : Option HostAddress
  published : Option PortRange
  target : PortRange
  protocol : Option PortProtocol

def ShortPort.hostText (port : ShortPort) : JsString :=
  match port.hostIp, port.published with
  | none, none => []
  | none, some published => published.text ++ [58]
  | some address, none => address.text ++ [58, 58]
  | some address, some published =>
      address.text ++ 58 :: (published.text ++ [58])

def ShortPort.targetText (port : ShortPort) : JsString :=
  port.target.text ++
    match port.protocol with
    | none => []
    | some protocol => 47 :: protocol.text

def ShortPort.text (port : ShortPort) : JsString :=
  port.hostText ++ port.targetText

inductive PortKey where
  | mode
  | hostIp
  | target
  | published
  | protocol
  deriving DecidableEq, Repr

def PortKey.text : PortKey → JsString
  | mode => js "mode"
  | hostIp => js "host_ip"
  | target => js "target"
  | published => js "published"
  | protocol => js "protocol"

/-- The fields stand in some order, each with its quoting. -/
structure LongPort where
  mode : PortMode
  hostIp : Option HostAddress
  target : Nat
  published : PortRange
  protocol : Option PortProtocol
  order : List (PortKey × Quoting)
  complete : (order.map Prod.fst).Perm
    [.mode, .hostIp, .target, .published, .protocol]

def LongPort.value? (port : LongPort) : PortKey → Option JsString
  | .mode => some port.mode.text
  | .hostIp => port.hostIp.map HostAddress.text
  | .target => some (natText port.target)
  | .published => some port.published.text
  | .protocol => port.protocol.map PortProtocol.text

/-- The keys that are given, with their quoting and value. -/
def LongPort.fields (port : LongPort) :
    List (PortKey × Quoting × JsString) :=
  port.order.filterMap fun field =>
    (port.value? field.1).map fun value => (field.1, field.2, value)

inductive PortEntry where
  | short (quoting : Quoting) (port : ShortPort)
  | long (port : LongPort)

/-- What an entry publishes.  Without a published port the engine chooses
one. -/
structure PublishedPort where
  hostIp : Option JsString
  published : Option PortRange
  target : PortRange
  deriving DecidableEq

def PortEntry.port : PortEntry → PublishedPort
  | short _ port =>
      ⟨port.hostIp.map HostAddress.text, port.published, port.target⟩
  | long port =>
      ⟨port.hostIp.map HostAddress.text, some port.published,
        PortRange.single port.target⟩

/-- The bindings that the check allows. -/
def loopbackPorts : List PublishedPort :=
  [⟨some (js "127.0.0.1"), some (PortRange.single 3100),
      PortRange.single 3000⟩,
    ⟨some (js "127.0.0.1"), some (PortRange.single 3101),
      PortRange.single 3001⟩]

/-! ## Texts -/

def indented (count : Nat) (text : JsString) : JsString :=
  List.replicate count 32 ++ text

def fieldText (field : PortKey × Quoting × JsString) : JsString :=
  field.1.text ++ 58 :: 32 :: field.2.1.apply field.2.2

/-- The first line of an item of fields has the dash. -/
def fieldLines : List (PortKey × Quoting × JsString) → List JsString
  | [] => []
  | first :: rest =>
      indented 6 (45 :: 32 :: fieldText first) ::
        rest.map fun field => indented 8 (fieldText field)

def PortEntry.lines : PortEntry → List JsString
  | short quoting port =>
      [indented 6 (45 :: 32 :: quoting.apply port.text)]
  | long port => fieldLines port.fields

/-- Lines that open no list of ports. -/
def OtherLines (lines : List JsString) : Prop :=
  ∀ line ∈ lines, isPortsLine line = false ∧ 10 ∉ line ∧ 13 ∉ line

instance (lines : List JsString) : Decidable (OtherLines lines) :=
  inferInstanceAs (Decidable (∀ line ∈ lines, _))

/-- The first line, if any, stands no deeper than the settings of a
service. -/
def Outdented (lines : List JsString) : Prop :=
  ∀ line ∈ lines.head?, ∃ indent ≤ 4, searchNonSpace line = some indent

/-- The letters, the digits and the units `-`, `.`, `_`. -/
def isNameUnit (unit : UInt16) : Bool :=
  isDigit unit || isKeyUnit unit || unit == 45 || unit == 46

/-- A service.  One named `ports` has no setting before its ports: there the
check would take the settings for ports. -/
structure ComposeService where
  name : JsString
  before : List JsString
  ports : List PortEntry
  after : List JsString
  nameNonempty : name ≠ []
  nameUnits : ∀ unit ∈ name, isNameUnit unit = true
  beforeOther : OtherLines before
  beforeNone : name = js "ports" → before = []
  afterOther : OtherLines after
  afterOutdented : Outdented after

def ComposeService.lines (service : ComposeService) : List JsString :=
  indented 2 (service.name ++ [58]) ::
    (service.before ++
      indented 4 (js "ports:") ::
        (service.ports.flatMap PortEntry.lines ++ service.after))

structure ComposeText where
  header : List JsString
  services : List ComposeService
  footer : List JsString
  headerOther : OtherLines header
  footerOther : OtherLines footer
  footerOutdented : Outdented footer

def ComposeText.lines (compose : ComposeText) : List JsString :=
  compose.header ++
    js "services:" ::
      (compose.services.flatMap ComposeService.lines ++ compose.footer)

def ComposeText.render (compose : ComposeText) : JsString :=
  [10].intercalate compose.lines

def ComposeText.entries (compose : ComposeText) : List PortEntry :=
  compose.services.flatMap ComposeService.ports

/-- The text under which the check knows an entry: that of a scalar in double
quotes, or of fields with an address. -/
def PortEntry.mapping? : PortEntry → Option JsString
  | short .double port => some port.text
  | short _ _ => none
  | long port =>
      port.hostIp.map fun address =>
        address.text ++ js ":" ++ port.published.text ++ js ":" ++
          natText port.target

/-! ## Units -/

theorem bounds_of_isScalarUnit {unit : UInt16}
    (scalar : isScalarUnit unit = true) :
    45 ≤ unit.toNat ∧ unit.toNat ≤ 122 := by
  simp only [isScalarUnit, Bool.and_eq_true, decide_eq_true_eq,
    UInt16.le_iff_toNat_le] at scalar
  exact scalar

theorem isSpace_of_isScalarUnit {unit : UInt16}
    (scalar : isScalarUnit unit = true) : isSpace unit = false := by
  have bounds := bounds_of_isScalarUnit scalar
  rw [Bool.eq_false_iff]
  intro space
  simp only [isSpace, Bool.or_eq_true, Bool.and_eq_true, decide_eq_true_eq,
    beq_iff_eq, UInt16.le_iff_toNat_le, ← UInt16.toNat_inj,
    UInt16.reduceToNat] at space
  omega

theorem ne_of_isScalarUnit {unit other : UInt16}
    (scalar : isScalarUnit unit = true) (small : other.toNat < 45) :
    unit ≠ other := by
  rintro rfl
  have bounds := bounds_of_isScalarUnit scalar
  omega

theorem isScalarUnit_of_isDigit {unit : UInt16} (digit : isDigit unit = true) :
    isScalarUnit unit = true := by
  simp only [isDigit, isScalarUnit, Bool.and_eq_true, decide_eq_true_eq,
    UInt16.le_iff_toNat_le, UInt16.reduceToNat] at digit ⊢
  omega

theorem isScalarUnit_of_isAddressUnit {unit : UInt16}
    (address : isAddressUnit unit = true) : isScalarUnit unit = true := by
  simp only [isAddressUnit, isDigit, isScalarUnit, Bool.or_eq_true,
    Bool.and_eq_true, decide_eq_true_eq, beq_iff_eq,
    UInt16.le_iff_toNat_le, ← UInt16.toNat_inj, UInt16.reduceToNat]
    at address ⊢
  omega

theorem isScalarUnit_of_isNameUnit {unit : UInt16}
    (named : isNameUnit unit = true) : isScalarUnit unit = true := by
  simp only [isNameUnit, isDigit, isKeyUnit, isScalarUnit, Bool.or_eq_true,
    Bool.and_eq_true, decide_eq_true_eq, beq_iff_eq,
    UInt16.le_iff_toNat_le, ← UInt16.toNat_inj, UInt16.reduceToNat]
    at named ⊢
  omega

theorem ne_colon_of_isNameUnit {unit : UInt16}
    (named : isNameUnit unit = true) : unit ≠ 58 := by
  rintro rfl
  revert named
  decide

theorem scalarText_natText (number : Nat) : ScalarText (natText number) := by
  constructor
  · by_cases positive : 0 < number
    · obtain ⟨digit, rest, _, _, shape⟩ := natText_head positive
      rw [shape]
      exact List.cons_ne_nil _ _
    · rw [Nat.eq_zero_of_not_pos positive]
      exact List.cons_ne_nil _ _
  · intro unit member
    exact isScalarUnit_of_isDigit (isDigit_of_mem_natText member)

theorem ScalarText.append {left right : JsString} (leftScalar : ScalarText left)
    (rightUnits : ∀ unit ∈ right, isScalarUnit unit = true) :
    ScalarText (left ++ right) := by
  constructor
  · intro empty
    exact leftScalar.nonempty (List.append_eq_nil_iff.mp empty).1
  · intro unit member
    rcases List.mem_append.mp member with inLeft | inRight
    · exact leftScalar.units unit inLeft
    · exact rightUnits unit inRight

theorem HostAddress.scalarText (address : HostAddress) :
    ScalarText address.text where
  nonempty := address.nonempty
  units unit member := isScalarUnit_of_isAddressUnit (address.units unit member)

theorem PortRange.scalarText (ports : PortRange) : ScalarText ports.text := by
  refine (scalarText_natText ports.first).append ?_
  intro unit member
  cases last : ports.last with
  | none =>
      rw [last] at member
      exact nomatch member
  | some port =>
      rw [last] at member
      rcases List.mem_cons.mp member with rfl | digit
      · decide
      · exact (scalarText_natText port).units unit digit

theorem ShortPort.scalar_hostText (port : ShortPort) :
    ∀ unit ∈ port.hostText, isScalarUnit unit = true := by
  have colon : isScalarUnit 58 = true := by
    decide
  intro unit member
  rw [hostText] at member
  cases addressed : port.hostIp with
  | none =>
      cases published : port.published with
      | none =>
          rw [addressed, published] at member
          exact nomatch member
      | some ports =>
          rw [addressed, published] at member
          rcases List.mem_append.mp member with inPorts | last
          · exact ports.scalarText.units unit inPorts
          · rw [List.mem_singleton.mp last]
            exact colon
  | some address =>
      cases published : port.published with
      | none =>
          rw [addressed, published] at member
          rcases List.mem_append.mp member with inAddress | last
          · exact address.scalarText.units unit inAddress
          · simp only [List.mem_cons, List.not_mem_nil, or_false, or_self]
              at last
            rw [last]
            exact colon
      | some ports =>
          rw [addressed, published] at member
          rcases List.mem_append.mp member with inAddress | later
          · exact address.scalarText.units unit inAddress
          · rcases List.mem_cons.mp later with rfl | rest
            · exact colon
            · rcases List.mem_append.mp rest with inPorts | last
              · exact ports.scalarText.units unit inPorts
              · rw [List.mem_singleton.mp last]
                exact colon

theorem ShortPort.scalar_targetText (port : ShortPort) :
    ScalarText port.targetText := by
  refine port.target.scalarText.append ?_
  intro unit member
  cases given : port.protocol with
  | none =>
      rw [given] at member
      exact nomatch member
  | some protocol =>
      rw [given] at member
      have scalar : ∀ unit ∈ 47 :: protocol.text,
          isScalarUnit unit = true :=
        List.all_eq_true.mp (by cases protocol <;> decide)
      exact scalar unit member

theorem ShortPort.scalarText (port : ShortPort) : ScalarText port.text := by
  constructor
  · intro empty
    exact port.scalar_targetText.nonempty (List.append_eq_nil_iff.mp empty).2
  · intro unit member
    rcases List.mem_append.mp member with inHost | inTarget
    · exact port.scalar_hostText unit inHost
    · exact port.scalar_targetText.units unit inTarget

theorem LongPort.scalarText {port : LongPort} {key : PortKey}
    {value : JsString} (given : port.value? key = some value) :
    ScalarText value := by
  cases key with
  | mode =>
      cases Option.some.inj given
      exact ⟨by cases port.mode <;> decide,
        List.all_eq_true.mp (by cases port.mode <;> decide)⟩
  | hostIp =>
      obtain ⟨address, _, rfl⟩ := Option.map_eq_some_iff.mp given
      exact address.scalarText
  | target =>
      cases Option.some.inj given
      exact scalarText_natText port.target
  | published =>
      cases Option.some.inj given
      exact port.published.scalarText
  | protocol =>
      obtain ⟨protocol, _, rfl⟩ := Option.map_eq_some_iff.mp given
      exact ⟨by cases protocol <;> decide,
        List.all_eq_true.mp (by cases protocol <;> decide)⟩

end BidayaxExecutive.Reconciliation
