import Mathlib.Data.List.TakeWhile
import BidayaxExecutive.Reconciliation.ComposeText

/-!
# The scan of a rendered compose text

What the check reads on each kind of line, and from it what it collects from a
whole text: the mapping of every entry that has one, in order.
-/

namespace BidayaxExecutive.Reconciliation

open BidayaxExecutive.Runtime JsString

/-! ## Indented lines -/

section Indented

variable {count : Nat} {first : UInt16} {rest : JsString}

theorem dropWhile_indented (visible : isSpace first = false) :
    (indented count (first :: rest)).dropWhile isSpace = first :: rest := by
  have spaces : ∀ unit ∈ List.replicate count (32 : UInt16),
      isSpace unit = true := by
    intro unit member
    rw [List.eq_of_mem_replicate member]
    decide
  rw [indented, List.dropWhile_append_of_pos spaces]
  simp [visible]

theorem searchNonSpace_indented (visible : isSpace first = false) :
    searchNonSpace (indented count (first :: rest)) = some count := by
  induction count with
  | zero =>
      rw [indented, searchNonSpace, List.replicate_zero, List.nil_append,
        List.findIdx?_cons, visible]
      rfl
  | succ count inductionHypothesis =>
      have space : isSpace 32 = true := by
        decide
      rw [searchNonSpace] at inductionHypothesis ⊢
      rw [indented, List.replicate_succ, List.cons_append,
        List.findIdx?_cons]
      rw [indented] at inductionHypothesis
      simp [space, inductionHypothesis]

theorem isPortsLine_indented (visible : isSpace first = false) :
    isPortsLine (indented (count + 1) (first :: rest)) =
      ((js "ports:").isPrefixOf (first :: rest) &&
        isBlank ((first :: rest).drop 6)) := by
  have shape : indented (count + 1) (first :: rest) =
      32 :: indented count (first :: rest) := rfl
  have space : isSpace 32 = true := by
    decide
  have dropped : (indented (count + 1) (first :: rest)).dropWhile isSpace =
      first :: rest := dropWhile_indented visible
  rw [shape] at dropped ⊢
  simp only [isPortsLine, dropped, space, Bool.true_and]

theorem longFormEntry?_indented (visible : isSpace first = false) :
    longFormEntry? (indented (count + 1) (first :: rest)) =
      field? (first :: rest) := by
  have shape : indented (count + 1) (first :: rest) =
      32 :: indented count (first :: rest) := rfl
  have space : isSpace 32 = true := by
    decide
  rw [shape, longFormEntry?, if_pos space, dropWhile_indented visible]

end Indented

/-! ## Scalars -/

theorem trim_of_visible {text : JsString}
    (visible : ∀ unit ∈ text, isSpace unit = false) : trim text = text := by
  have kept : ∀ units : JsString, (∀ unit ∈ units, isSpace unit = false) →
      units.dropWhile isSpace = units := by
    intro units allVisible
    cases units with
    | nil => rfl
    | cons unit units =>
        rw [List.dropWhile_cons_of_neg]
        rw [allVisible unit List.mem_cons_self]
        exact Bool.false_ne_true
  rw [trim, kept text visible, kept text.reverse, List.reverse_reverse]
  intro unit member
  exact visible unit (List.mem_reverse.mp member)

section Scalar

variable {text : JsString} (scalar : ScalarText text)

include scalar in
theorem visible_apply (quoting : Quoting) :
    ∀ unit ∈ quoting.apply text, isSpace unit = false := by
  have visible : ∀ unit ∈ text, isSpace unit = false := by
    intro unit member
    exact isSpace_of_isScalarUnit (scalar.units unit member)
  have quotes : isSpace 39 = false ∧ isSpace 34 = false := by
    decide
  intro unit member
  cases quoting with
  | plain => exact visible unit member
  | single =>
      rcases List.mem_cons.mp member with rfl | later
      · exact quotes.1
      · rcases List.mem_append.mp later with inside | last
        · exact visible unit inside
        · rw [List.mem_singleton.mp last]
          exact quotes.1
  | double =>
      rcases List.mem_cons.mp member with rfl | later
      · exact quotes.2
      · rcases List.mem_append.mp later with inside | last
        · exact visible unit inside
        · rw [List.mem_singleton.mp last]
          exact quotes.2

theorem isQuote_of_isScalarUnit {unit : UInt16}
    (unitScalar : isScalarUnit unit = true) : isQuote unit = false := by
  have notDouble : unit ≠ 34 := ne_of_isScalarUnit unitScalar (by decide)
  have notSingle : unit ≠ 39 := ne_of_isScalarUnit unitScalar (by decide)
  simp [isQuote, notDouble, notSingle]

theorem dropQuote_of_scalar {units : JsString}
    (allScalar : ∀ unit ∈ units, isScalarUnit unit = true) :
    dropQuote units = units := by
  cases units with
  | nil => rfl
  | cons unit rest =>
      have noQuote :=
        isQuote_of_isScalarUnit (allScalar unit List.mem_cons_self)
      simp [dropQuote, noQuote]

include scalar in
theorem stripYamlScalar_apply (quoting : Quoting) :
    stripYamlScalar (quoting.apply text) = text := by
  rw [stripYamlScalar, trim_of_visible (visible_apply scalar quoting)]
  have reversed : ∀ unit ∈ text.reverse, isScalarUnit unit = true := by
    intro unit member
    exact scalar.units unit (List.mem_reverse.mp member)
  cases quoting with
  | plain =>
      rw [Quoting.apply, dropQuote_of_scalar scalar.units,
        dropQuote_of_scalar reversed, List.reverse_reverse]
  | single | double =>
      simp [Quoting.apply, dropQuote, isQuote]

include scalar in
theorem apply_ne_nil (quoting : Quoting) : quoting.apply text ≠ [] := by
  cases quoting with
  | plain => exact scalar.nonempty
  | single | double => exact List.cons_ne_nil _ _

theorem isSpace_of_isLineTerminator {unit : UInt16}
    (terminator : isLineTerminator unit = true) : isSpace unit = true := by
  simp only [isLineTerminator, Bool.or_eq_true, beq_iff_eq] at terminator
  rcases terminator with ((rfl | rfl) | rfl) | rfl <;> decide

include scalar in
theorem fieldValue?_apply (quoting : Quoting) :
    fieldValue? (32 :: quoting.apply text) = some (quoting.apply text) := by
  have visible := visible_apply scalar quoting
  have nonempty := apply_ne_nil scalar quoting
  generalize quoting.apply text = value at visible nonempty
  have space : isSpace 32 = true := by
    decide
  have value_eq : (32 :: value).dropWhile isSpace = value := by
    rw [List.dropWhile_cons_of_pos space]
    cases value with
    | nil => rfl
    | cons unit rest =>
        rw [List.dropWhile_cons_of_neg]
        rw [visible unit List.mem_cons_self]
        exact Bool.false_ne_true
  have onOneLine : ∀ unit ∈ value, (!isLineTerminator unit) = true := by
    intro unit member
    rw [Bool.not_eq_true', Bool.eq_false_iff]
    intro terminator
    have notSpace := visible unit member
    rw [isSpace_of_isLineTerminator terminator] at notSpace
    exact nomatch notSpace
  have dropped : (value.dropWhile fun unit => !isLineTerminator unit) = [] :=
    List.dropWhile_eq_nil_iff.mpr onOneLine
  have taken : (value.takeWhile fun unit => !isLineTerminator unit) = value :=
    List.takeWhile_eq_self_iff.mpr onOneLine
  have notEmpty : value.isEmpty = false := by
    simpa using nonempty
  simp [fieldValue?, value_eq, notEmpty, dropped, taken, isBlank]

include scalar in
theorem field?_text {key : JsString} (keyNonempty : key ≠ [])
    (keyUnits : ∀ unit ∈ key, isKeyUnit unit = true) (quoting : Quoting) :
    field? (key ++ 58 :: 32 :: quoting.apply text) =
      some (key, quoting.apply text) := by
  have stops : isKeyUnit 58 = false := by
    decide
  have taken : (key ++ 58 :: 32 :: quoting.apply text).takeWhile isKeyUnit =
      key := by
    rw [List.takeWhile_append_of_pos keyUnits, List.takeWhile_cons_of_neg
      (by rw [stops]; exact Bool.false_ne_true), List.append_nil]
  have dropped : (key ++ 58 :: 32 :: quoting.apply text).dropWhile isKeyUnit =
      58 :: 32 :: quoting.apply text := by
    rw [List.dropWhile_append_of_pos keyUnits, List.dropWhile_cons_of_neg
      (by rw [stops]; exact Bool.false_ne_true)]
  have notEmpty : key.isEmpty = false := by
    simpa using keyNonempty
  simp [field?, taken, dropped, notEmpty, fieldValue?_apply scalar]

end Scalar

/-! ## Entries -/

section Entry

variable {text : JsString} (scalar : ScalarText text)

theorem isSpace_dash : isSpace 45 = false := by
  decide

theorem quotedItem?_item {first : UInt16} {rest : JsString}
    (visible : isSpace first = false) (noQuote : first ≠ 34) :
    quotedItem? (indented 6 (45 :: 32 :: first :: rest)) = none := by
  have space : isSpace 32 = true := by
    decide
  have dropped : (32 :: first :: rest).dropWhile isSpace = first :: rest := by
    rw [List.dropWhile_cons_of_pos space, List.dropWhile_cons_of_neg]
    rw [visible]
    exact Bool.false_ne_true
  rw [quotedItem?, dropWhile_indented isSpace_dash]
  simp only [dropped]
  split
  · rename_i quoted shape
    exact absurd (List.cons.inj shape).1 noQuote
  · rfl

include scalar in
theorem quotedItem?_double :
    quotedItem? (indented 6 (45 :: 32 :: Quoting.double.apply text)) =
      some text := by
  have space : isSpace 32 = true := by
    decide
  have quote : isSpace 34 = false := by
    decide
  have dropped : (32 :: Quoting.double.apply text).dropWhile isSpace =
      34 :: (text ++ [34]) := by
    rw [Quoting.apply, List.dropWhile_cons_of_pos space,
      List.dropWhile_cons_of_neg]
    rw [quote]
    exact Bool.false_ne_true
  have notQuotes : ∀ unit ∈ text, (unit != 34) = true := by
    intro unit member
    rw [bne_iff_ne]
    exact ne_of_isScalarUnit (scalar.units unit member) (by decide)
  have taken : (text ++ [34]).takeWhile (· != 34) = text := by
    rw [List.takeWhile_append_of_pos notQuotes]
    simp
  have after : (text ++ [34]).dropWhile (· != 34) = [34] := by
    rw [List.dropWhile_append_of_pos notQuotes]
    simp
  have notEmpty : text.isEmpty = false := by
    simpa using scalar.nonempty
  rw [quotedItem?, dropWhile_indented isSpace_dash]
  simp [dropped, taken, after, notEmpty, isBlank]

theorem longFormStart?_item {first : UInt16} {rest : JsString}
    (visible : isSpace first = false) :
    longFormStart? (indented 6 (45 :: 32 :: first :: rest)) =
      field? (first :: rest) := by
  have space : isSpace 32 = true := by
    decide
  rw [longFormStart?, dropWhile_indented isSpace_dash]
  simp [space, visible]

/-- A line with a dash is no further field. -/
theorem longFormEntry?_dash (item : JsString) :
    longFormEntry? (indented 6 (45 :: item)) = none := by
  have dash : isKeyUnit 45 = false := by
    decide
  rw [longFormEntry?_indented isSpace_dash, field?]
  simp [dash]

end Entry

section Field

variable {key : PortKey} {quoting : Quoting} {value : JsString}
  (scalar : ScalarText value)

theorem PortKey.isKeyUnit_text (key : PortKey) :
    ∀ unit ∈ key.text, isKeyUnit unit = true :=
  List.all_eq_true.mp (by cases key <;> decide)

theorem PortKey.text_ne_nil (key : PortKey) : key.text ≠ [] := by
  cases key <;> decide

include scalar in
theorem field?_fieldText :
    field? (fieldText (key, quoting, value)) =
      some (key.text, quoting.apply value) :=
  field?_text scalar key.text_ne_nil key.isKeyUnit_text quoting

/-- A field starts with a letter. -/
theorem exists_fieldText (field : PortKey × Quoting × JsString) :
    ∃ first rest, fieldText field = first :: rest ∧ isSpace first = false ∧
      first ≠ 34 ∧ first ≠ 45 ∧
      isPortsLine (indented 8 (first :: rest)) = false := by
  obtain ⟨key, quoting, value⟩ := field
  rw [fieldText]
  cases key <;> refine ⟨_, _, rfl, by decide, by decide, by decide, ?_⟩ <;>
    rw [isPortsLine_indented (by decide)] <;> rfl

theorem quotedItem?_fieldText_dash (field : PortKey × Quoting × JsString) :
    quotedItem? (indented 6 (45 :: 32 :: fieldText field)) = none := by
  obtain ⟨first, rest, shape, visible, noQuote, _⟩ := exists_fieldText field
  rw [shape]
  exact quotedItem?_item visible noQuote

include scalar in
theorem longFormStart?_fieldText_dash :
    longFormStart? (indented 6 (45 :: 32 :: fieldText (key, quoting, value))) =
      some (key.text, quoting.apply value) := by
  obtain ⟨first, rest, shape, visible, _⟩ :=
    exists_fieldText (key, quoting, value)
  rw [shape, longFormStart?_item visible, ← shape, field?_fieldText scalar]

theorem quotedItem?_fieldText (field : PortKey × Quoting × JsString) :
    quotedItem? (indented 8 (fieldText field)) = none := by
  obtain ⟨first, rest, shape, visible, _, noDash, _⟩ := exists_fieldText field
  rw [shape, quotedItem?, dropWhile_indented visible]
  split
  · rename_i item same
    exact absurd (List.cons.inj same).1 noDash
  · rfl

theorem longFormStart?_fieldText (field : PortKey × Quoting × JsString) :
    longFormStart? (indented 8 (fieldText field)) = none := by
  obtain ⟨first, rest, shape, visible, _, noDash, _⟩ := exists_fieldText field
  rw [shape, longFormStart?, dropWhile_indented visible]
  split
  · rename_i unit item same
    exact absurd (List.cons.inj same).1 noDash
  · rfl

include scalar in
theorem longFormEntry?_fieldText :
    longFormEntry? (indented 8 (fieldText (key, quoting, value))) =
      some (key.text, quoting.apply value) := by
  obtain ⟨first, rest, shape, visible, _⟩ :=
    exists_fieldText (key, quoting, value)
  rw [shape, longFormEntry?_indented visible, ← shape,
    field?_fieldText scalar]

end Field

/-! ## What the scan has collected -/

/-- The mappings, with that of the fields read last. -/
def collected (scan : PortScan) : List JsString :=
  (flushLongFormPort scan).mappings

theorem collected_eq (scan : PortScan) :
    collected scan = scan.mappings ++
      (scan.currentLongFormPort.bind longFormMapping?).toList :=
  rfl

/-- One field makes no mapping. -/
theorem longFormMapping?_single (key value : JsString) :
    longFormMapping? (JsMap.empty.set key value) = none := by
  have different : js "published" ≠ js "host_ip" := by
    decide
  rw [longFormMapping?, presentField?, presentField?, JsMap.get_set,
    JsMap.get_set]
  by_cases isHost : js "host_ip" = key
  · rw [← isHost, if_neg different]
    cases (Option.filter _ _ : Option JsString) <;> rfl
  · rw [if_neg isHost]
    rfl

section Scan

variable {scan : PortScan} {line : JsString}

theorem scanLine_inside {indent : Nat} (inside : scan.portsIndent = some 4)
    (other : isPortsLine line = false)
    (found : searchNonSpace line = some indent) (deeper : 4 < indent) :
    scanLine scan line = scanPortLine scan line := by
  rw [scanLine, if_neg (by rw [other]; exact Bool.false_ne_true), inside, found]
  exact if_neg (Nat.not_le.mpr deeper)

theorem portsIndent_scanPortLine (scan : PortScan) (line : JsString) :
    (scanPortLine scan line).portsIndent = scan.portsIndent := by
  rw [scanPortLine]
  cases quotedItem? line with
  | some text => rfl
  | none =>
      cases longFormStart? line with
      | some field => rfl
      | none =>
          cases scan.currentLongFormPort with
          | none => rfl
          | some port =>
              cases longFormEntry? line with
              | none => rfl
              | some field => rfl

theorem collected_quoted {text : JsString}
    (quoted : quotedItem? line = some text) :
    collected (scanPortLine scan line) = collected scan ++ [text] := by
  rw [scanPortLine, quoted]
  exact List.append_nil _

theorem scanPortLine_passed (noQuoted : quotedItem? line = none)
    (noStart : longFormStart? line = none)
    (noEntry : longFormEntry? line = none) :
    scanPortLine scan line = scan := by
  rw [scanPortLine, noQuoted, noStart, noEntry]
  cases scan.currentLongFormPort <;> rfl

theorem scanPortLine_start {key value : JsString}
    (noQuoted : quotedItem? line = none)
    (start : longFormStart? line = some (key, value)) :
    scanPortLine scan line =
      { mappings := collected scan
        portsIndent := scan.portsIndent
        currentLongFormPort :=
          some (JsMap.empty.set key (stripYamlScalar value)) } := by
  rw [scanPortLine, noQuoted, start]
  rfl

theorem scanPortLine_entry {key value : JsString} {port : LongFormPort}
    (noQuoted : quotedItem? line = none)
    (noStart : longFormStart? line = none)
    (entry : longFormEntry? line = some (key, value))
    (current : scan.currentLongFormPort = some port) :
    scanPortLine scan line =
      { scan with
        currentLongFormPort :=
          some (port.set key (stripYamlScalar value)) } := by
  rw [scanPortLine, noQuoted, noStart, entry, current]

/-- An item that is not in double quotes adds nothing. -/
theorem collected_scanPortLine_item {item : JsString}
    (noQuoted : quotedItem? (indented 6 (45 :: item)) = none) :
    collected (scanPortLine scan (indented 6 (45 :: item))) =
      collected scan := by
  cases start : longFormStart? (indented 6 (45 :: item)) with
  | none =>
      rw [scanPortLine_passed noQuoted start (longFormEntry?_dash item)]
  | some field =>
      obtain ⟨key, value⟩ := field
      rw [scanPortLine_start noQuoted start, collected_eq, Option.bind_some,
        longFormMapping?_single]
      exact List.append_nil _

theorem scanLine_item {item : JsString} (inside : scan.portsIndent = some 4) :
    scanLine scan (indented 6 (45 :: item)) =
      scanPortLine scan (indented 6 (45 :: item)) := by
  apply scanLine_inside inside ?_ (searchNonSpace_indented isSpace_dash)
    (by decide)
  rw [isPortsLine_indented isSpace_dash]
  rfl

theorem scanLine_field {field : PortKey × Quoting × JsString}
    (inside : scan.portsIndent = some 4) :
    scanLine scan (indented 8 (fieldText field)) =
      scanPortLine scan (indented 8 (fieldText field)) := by
  obtain ⟨first, rest, shape, visible, _, _, other⟩ := exists_fieldText field
  rw [shape]
  exact scanLine_inside inside other (searchNonSpace_indented visible)
    (by decide)

/-! ## A list of ports -/

/-- A scan inside a list of ports that has collected some mappings. -/
structure Inside (mappings : List JsString) (scan : PortScan) : Prop where
  portsIndent : scan.portsIndent = some 4
  collected : collected scan = mappings

theorem scan_short {mappings : List JsString} (inside : Inside mappings scan)
    (quoting : Quoting) (port : ShortPort) :
    Inside (mappings ++ (PortEntry.short quoting port).mapping?.toList)
      ((PortEntry.short quoting port).lines.foldl scanLine scan) := by
  have scalar := port.scalarText
  rw [PortEntry.lines, List.foldl_cons, List.foldl_nil,
    scanLine_item inside.portsIndent]
  refine ⟨(portsIndent_scanPortLine _ _).trans inside.portsIndent, ?_⟩
  cases quoting with
  | double =>
      rw [collected_quoted (quotedItem?_double scalar), inside.collected]
      rfl
  | single =>
      have noQuoted : quotedItem?
          (indented 6 (45 :: 32 :: Quoting.single.apply port.text)) = none :=
        quotedItem?_item (by decide) (by decide)
      rw [collected_scanPortLine_item noQuoted, inside.collected]
      exact (List.append_nil _).symm
  | plain =>
      have noQuoted : quotedItem?
          (indented 6 (45 :: 32 :: Quoting.plain.apply port.text)) = none := by
        obtain ⟨first, rest, shape⟩ :=
          List.exists_cons_of_ne_nil scalar.nonempty
        have firstScalar := scalar.units first (by
          rw [shape]
          exact List.mem_cons_self)
        rw [Quoting.apply, shape]
        exact quotedItem?_item (isSpace_of_isScalarUnit firstScalar)
          (ne_of_isScalarUnit firstScalar (by decide))
      rw [collected_scanPortLine_item noQuoted, inside.collected]
      exact (List.append_nil _).symm

/-- The key and the value that are read of a field. -/
def readField (field : PortKey × Quoting × JsString) : JsString × JsString :=
  (field.1.text, field.2.2)

theorem scan_fields {fields : List (PortKey × Quoting × JsString)}
    {mappings : List JsString} {read : List (JsString × JsString)}
    (scalar : ∀ field ∈ fields, ScalarText field.2.2) :
    (fields.map fun field => indented 8 (fieldText field)).foldl scanLine
        ⟨mappings, some 4, some (JsMap.ofEntries read)⟩ =
      ⟨mappings, some 4,
        some (JsMap.ofEntries (read ++ fields.map readField))⟩ := by
  induction fields generalizing read with
  | nil =>
      rw [List.map_nil, List.map_nil, List.append_nil, List.foldl_nil]
  | cons field rest inductionHypothesis =>
      obtain ⟨key, quoting, value⟩ := field
      obtain ⟨valueScalar, restScalar⟩ := List.forall_mem_cons.mp scalar
      have step : scanLine ⟨mappings, some 4, some (JsMap.ofEntries read)⟩
            (indented 8 (fieldText (key, quoting, value))) =
          ⟨mappings, some 4, some (JsMap.ofEntries
            (read ++ [readField (key, quoting, value)]))⟩ := by
        rw [scanLine_field rfl, scanPortLine_entry
          (quotedItem?_fieldText _) (longFormStart?_fieldText _)
          (longFormEntry?_fieldText valueScalar) rfl,
          stripYamlScalar_apply valueScalar, JsMap.ofEntries, JsMap.ofEntries,
          List.foldl_append]
        rfl
      rw [List.map_cons, List.foldl_cons, step,
        inductionHypothesis restScalar, List.map_cons, List.append_assoc]
      rfl

theorem scan_fieldLines {fields : List (PortKey × Quoting × JsString)}
    {mappings : List JsString} (nonempty : fields ≠ [])
    (scalar : ∀ field ∈ fields, ScalarText field.2.2)
    (inside : Inside mappings scan) :
    Inside
      (mappings ++ (longFormMapping?
        (JsMap.ofEntries (fields.map readField))).toList)
      ((fieldLines fields).foldl scanLine scan) := by
  cases fields with
  | nil =>
      exact absurd rfl nonempty
  | cons field rest =>
      obtain ⟨key, quoting, value⟩ := field
      obtain ⟨valueScalar, restScalar⟩ := List.forall_mem_cons.mp scalar
      have started : scanLine scan
          (indented 6 (45 :: 32 :: fieldText (key, quoting, value))) =
          { mappings := mappings
            portsIndent := some 4
            currentLongFormPort := some (JsMap.ofEntries
              [readField (key, quoting, value)]) } := by
        rw [scanLine_item inside.portsIndent, scanPortLine_start
          (quotedItem?_fieldText_dash _)
          (longFormStart?_fieldText_dash valueScalar), inside.collected,
          inside.portsIndent, stripYamlScalar_apply valueScalar]
        rfl
      rw [fieldLines, List.foldl_cons, started, scan_fields restScalar]
      exact ⟨rfl, rfl⟩

end Scan

/-! ## The fields of an item -/

theorem PortKey.text_injective : Function.Injective PortKey.text := by
  intro left right same
  cases left <;> cases right <;> first | rfl | exact absurd same (by decide)

section Fields

variable (port : LongPort)

theorem mem_fields {key : PortKey} {value : JsString} :
    (key.text, value) ∈ port.fields.map readField ↔
      port.value? key = some value := by
  rw [LongPort.fields, List.mem_map]
  constructor
  · rintro ⟨field, member, same⟩
    obtain ⟨⟨other, quoting⟩, _, given⟩ := List.mem_filterMap.mp member
    obtain ⟨found, isGiven, rfl⟩ := Option.map_eq_some_iff.mp given
    obtain ⟨sameKey, sameValue⟩ := Prod.mk.inj same
    rw [← PortKey.text_injective sameKey, ← sameValue]
    exact isGiven
  · intro given
    have listed : key ∈ port.order.map Prod.fst := by
      rw [port.complete.mem_iff]
      cases key <;> decide
    obtain ⟨⟨_, quoting⟩, member, rfl⟩ := List.mem_map.mp listed
    exact ⟨(_, quoting, value), List.mem_filterMap.mpr
      ⟨_, member, by rw [given]; rfl⟩, rfl⟩

theorem nodup_keys_fields :
    ((port.fields.map readField).map Prod.fst).Nodup := by
  have listed : (port.order.map Prod.fst).Nodup := by
    rw [port.complete.nodup_iff]
    decide
  have given : (port.fields.map Prod.fst).Nodup := by
    refine listed.sublist ?_
    rw [LongPort.fields]
    generalize port.order = order
    induction order with
    | nil => exact List.Sublist.slnil
    | cons field rest inductionHypothesis =>
        rw [List.map_cons]
        cases value : port.value? field.1 with
        | none =>
            rw [List.filterMap_cons_none (by rw [value]; rfl)]
            exact inductionHypothesis.cons _
        | some text =>
            rw [List.filterMap_cons_some (by rw [value]; rfl), List.map_cons]
            exact inductionHypothesis.cons_cons _
  have keyTexts : (port.fields.map readField).map Prod.fst =
      (port.fields.map Prod.fst).map PortKey.text := by
    rw [List.map_map, List.map_map]
    rfl
  rw [keyTexts]
  exact given.map PortKey.text_injective

theorem presentField?_fields (key : PortKey) :
    presentField? (JsMap.ofEntries (port.fields.map readField)) key.text =
      port.value? key := by
  have found : (JsMap.ofEntries (port.fields.map readField)).get key.text =
      port.value? key := by
    ext value
    rw [JsMap.get_ofEntries_of_nodup (nodup_keys_fields port), mem_fields]
  rw [presentField?, found]
  cases given : port.value? key with
  | none => rfl
  | some value =>
      have nonempty := (LongPort.scalarText given).nonempty
      simp [nonempty]

theorem longFormMapping?_fields :
    longFormMapping? (JsMap.ofEntries (port.fields.map readField)) =
      (PortEntry.long port).mapping? := by
  have host : presentField? (JsMap.ofEntries (port.fields.map readField))
      (js "host_ip") = port.hostIp.map HostAddress.text :=
    presentField?_fields port .hostIp
  have published : presentField? (JsMap.ofEntries (port.fields.map readField))
      (js "published") = some port.published.text :=
    presentField?_fields port .published
  have target : presentField? (JsMap.ofEntries (port.fields.map readField))
      (js "target") = some (natText port.target) :=
    presentField?_fields port .target
  rw [longFormMapping?, host, published, target, PortEntry.mapping?]
  cases port.hostIp with
  | none => rfl
  | some address => rfl

theorem scalar_fields : ∀ field ∈ port.fields, ScalarText field.2.2 := by
  intro field member
  obtain ⟨_, _, given⟩ := List.mem_filterMap.mp member
  obtain ⟨value, found, rfl⟩ := Option.map_eq_some_iff.mp given
  exact LongPort.scalarText found

theorem scan_long {scan : PortScan} {mappings : List JsString}
    (inside : Inside mappings scan) :
    Inside (mappings ++ (PortEntry.long port).mapping?.toList)
      ((PortEntry.long port).lines.foldl scanLine scan) := by
  have nonempty : port.fields ≠ [] := by
    intro empty
    have mode : (PortKey.mode.text, port.mode.text) ∈
        port.fields.map readField := (mem_fields port).mpr rfl
    rw [empty] at mode
    exact nomatch mode
  rw [← longFormMapping?_fields]
  exact scan_fieldLines nonempty (scalar_fields port) inside

end Fields

theorem scan_entries (entries : List PortEntry) {scan : PortScan}
    {mappings : List JsString} (inside : Inside mappings scan) :
    Inside (mappings ++ entries.filterMap PortEntry.mapping?)
      ((entries.flatMap PortEntry.lines).foldl scanLine scan) := by
  induction entries generalizing scan mappings with
  | nil =>
      rw [List.filterMap_nil, List.append_nil]
      exact inside
  | cons entry rest inductionHypothesis =>
      have scanned : Inside (mappings ++ entry.mapping?.toList)
          (entry.lines.foldl scanLine scan) := by
        cases entry with
        | short quoting port => exact scan_short inside quoting port
        | long port => exact scan_long port inside
      have whole := inductionHypothesis scanned
      rw [List.flatMap_cons, List.foldl_append]
      have split : (entry :: rest).filterMap PortEntry.mapping? =
          entry.mapping?.toList ++ rest.filterMap PortEntry.mapping? := by
        rw [List.filterMap_cons]
        cases entry.mapping? <;> rfl
      rw [split, ← List.append_assoc]
      exact whole

/-! ## Services -/

/-- A scan before a service or behind the last one. -/
structure Between (mappings : List JsString) (scan : PortScan) : Prop where
  portsIndent : scan.portsIndent = none ∨ scan.portsIndent = some 4
  collected : collected scan = mappings

theorem collected_closed (scan : PortScan) :
    collected { flushLongFormPort scan with portsIndent := none } =
      collected scan :=
  List.append_nil _

section Service

variable {scan : PortScan} {mappings : List JsString}

theorem scan_other {lines : List JsString} (other : OtherLines lines)
    (outside : scan.portsIndent = none) :
    lines.foldl scanLine scan = scan := by
  induction lines with
  | nil => rfl
  | cons line rest inductionHypothesis =>
      obtain ⟨⟨notPorts, _⟩, restOther⟩ := List.forall_mem_cons.mp other
      have passed : scanLine scan line = scan := by
        rw [scanLine, if_neg (by rw [notPorts]; exact Bool.false_ne_true),
          outside]
      rw [List.foldl_cons, passed, inductionHypothesis restOther]

theorem scanLine_outdented {line : JsString} {indent : Nat}
    (between : Between mappings scan) (other : isPortsLine line = false)
    (found : searchNonSpace line = some indent) (outdented : indent ≤ 4) :
    (scanLine scan line).portsIndent = none ∧
      collected (scanLine scan line) = mappings := by
  rw [scanLine, if_neg (by rw [other]; exact Bool.false_ne_true), found]
  rcases between.portsIndent with outside | inside
  · rw [outside]
    exact ⟨outside, between.collected⟩
  · rw [inside]
    simp only [if_pos outdented, true_and]
    exact (collected_closed scan).trans between.collected

theorem scan_outdented {lines : List JsString} (between : Between mappings scan)
    (other : OtherLines lines) (outdented : Outdented lines) :
    Between mappings (lines.foldl scanLine scan) := by
  cases lines with
  | nil => exact between
  | cons line rest =>
      obtain ⟨⟨notPorts, _⟩, restOther⟩ := List.forall_mem_cons.mp other
      obtain ⟨indent, small, found⟩ := outdented line rfl
      obtain ⟨outside, kept⟩ :=
        scanLine_outdented between notPorts found small
      rw [List.foldl_cons, scan_other restOther outside]
      exact ⟨Or.inl outside, kept⟩

theorem scanLine_ports (scan : PortScan) :
    scanLine scan (indented 4 (js "ports:")) =
      { scan with portsIndent := some 4 } := by
  have isPorts : isPortsLine (indented 4 (js "ports:")) = true := by
    decide
  have found : searchNonSpace (indented 4 (js "ports:")) = some 4 := by
    decide
  rw [scanLine, if_pos isPorts, found]

/-- A line with the name of a service opens no list of ports unless the name
is `ports`. -/
theorem scanLine_name {name : JsString} (nonempty : name ≠ [])
    (units : ∀ unit ∈ name, isNameUnit unit = true)
    (between : Between mappings scan) :
    (name ≠ js "ports" →
        (scanLine scan (indented 2 (name ++ [58]))).portsIndent = none) ∧
      collected (scanLine scan (indented 2 (name ++ [58]))) = mappings := by
  obtain ⟨first, rest, rfl⟩ := List.exists_cons_of_ne_nil nonempty
  have visible : isSpace first = false :=
    isSpace_of_isScalarUnit <| isScalarUnit_of_isNameUnit <|
      units first List.mem_cons_self
  have noColon : (58 : UInt16) ∉ first :: rest := by
    intro member
    exact ne_colon_of_isNameUnit (units 58 member) rfl
  have found : searchNonSpace (indented 2 (first :: (rest ++ [58]))) =
      some 2 := searchNonSpace_indented visible
  have line : first :: rest ++ [58] = first :: (rest ++ [58]) := rfl
  rw [line]
  by_cases isPorts : isPortsLine (indented 2 (first :: (rest ++ [58]))) = true
  · have isName : first :: rest = js "ports" := by
      rw [isPortsLine_indented visible, Bool.and_eq_true,
        List.isPrefixOf_iff_prefix] at isPorts
      have shape : js "ports:" = js "ports" ++ 58 :: [] := by
        decide
      have noColonPorts : (58 : UInt16) ∉ js "ports" := by
        decide
      rw [shape, ← line] at isPorts
      exact (Library.Separator.split_of_isPrefix noColonPorts noColon
        isPorts.1).1.symm
    refine ⟨fun different => absurd isName different, ?_⟩
    rw [scanLine, if_pos isPorts]
    exact between.collected
  · obtain ⟨outside, kept⟩ := scanLine_outdented between
      (Bool.eq_false_iff.mpr isPorts) found (by decide)
    exact ⟨fun _ => outside, kept⟩

theorem scan_service (service : ComposeService)
    (between : Between mappings scan) :
    Between (mappings ++ service.ports.filterMap PortEntry.mapping?)
      (service.lines.foldl scanLine scan) := by
  obtain ⟨outside, kept⟩ :=
    scanLine_name service.nameNonempty service.nameUnits between
  have settings : service.before.foldl scanLine
      (scanLine scan (indented 2 (service.name ++ [58]))) =
        scanLine scan (indented 2 (service.name ++ [58])) := by
    by_cases isPorts : service.name = js "ports"
    · rw [service.beforeNone isPorts, List.foldl_nil]
    · exact scan_other service.beforeOther (outside isPorts)
  rw [ComposeService.lines, List.foldl_cons, List.foldl_append, settings,
    List.foldl_cons, scanLine_ports, List.foldl_append]
  have entered : Inside mappings
      { scanLine scan (indented 2 (service.name ++ [58])) with
        portsIndent := some 4 } := ⟨rfl, kept⟩
  have inside := scan_entries service.ports entered
  exact scan_outdented ⟨Or.inr inside.portsIndent, inside.collected⟩
    service.afterOther service.afterOutdented

theorem scan_services (services : List ComposeService)
    (between : Between mappings scan) :
    Between
      (mappings ++ (services.flatMap ComposeService.ports).filterMap
        PortEntry.mapping?)
      ((services.flatMap ComposeService.lines).foldl scanLine scan) := by
  induction services generalizing scan mappings with
  | nil =>
      rw [List.flatMap_nil, List.filterMap_nil, List.append_nil]
      exact between
  | cons service rest inductionHypothesis =>
      rw [List.flatMap_cons, List.flatMap_cons, List.foldl_append,
        List.filterMap_append, ← List.append_assoc]
      exact inductionHypothesis (scan_service service between)

end Service

/-! ## Whole texts -/

/-- No line end is among the units. -/
def Printable (line : JsString) : Prop :=
  ∀ unit ∈ line, 32 ≤ unit.toNat

theorem Printable.oneLine {line : JsString} (printable : Printable line) :
    10 ∉ line ∧ 13 ∉ line := by
  constructor
  · intro member
    exact absurd (printable 10 member) (by decide)
  · intro member
    exact absurd (printable 13 member) (by decide)

theorem Printable.append {left right : JsString}
    (leftPrintable : Printable left) (rightPrintable : Printable right) :
    Printable (left ++ right) := by
  intro unit member
  rcases List.mem_append.mp member with inLeft | inRight
  · exact leftPrintable unit inLeft
  · exact rightPrintable unit inRight

theorem Printable.cons {first : UInt16} {rest : JsString}
    (visible : 32 ≤ first.toNat) (printable : Printable rest) :
    Printable (first :: rest) :=
  List.forall_mem_cons.mpr ⟨visible, printable⟩

theorem Printable.singleton {unit : UInt16} (visible : 32 ≤ unit.toNat) :
    Printable [unit] := by
  intro other member
  rw [List.mem_singleton.mp member]
  exact visible

theorem printable_indented {text : JsString} (count : Nat)
    (printable : Printable text) : Printable (indented count text) := by
  refine Printable.append ?_ printable
  intro unit member
  rw [List.eq_of_mem_replicate member]
  decide

theorem printable_of_scalar {text : JsString}
    (scalar : ∀ unit ∈ text, isScalarUnit unit = true) : Printable text := by
  intro unit member
  have bounds := bounds_of_isScalarUnit (scalar unit member)
  omega

theorem printable_apply {text : JsString} (scalar : ScalarText text)
    (quoting : Quoting) : Printable (quoting.apply text) := by
  have printable := printable_of_scalar scalar.units
  cases quoting with
  | plain => exact printable
  | single =>
      exact Printable.cons (by decide)
        (printable.append (Printable.singleton (by decide)))
  | double =>
      exact Printable.cons (by decide)
        (printable.append (Printable.singleton (by decide)))

theorem printable_fieldText {key : PortKey} {quoting : Quoting}
    {value : JsString} (scalar : ScalarText value) :
    Printable (fieldText (key, quoting, value)) := by
  have allPrintable :
      key.text.all (fun unit => decide (32 ≤ unit.toNat)) = true := by
    cases key <;> decide
  have keyPrintable : Printable key.text := fun unit member =>
    of_decide_eq_true (List.all_eq_true.mp allPrintable unit member)
  exact keyPrintable.append <| Printable.cons (by decide) <|
    Printable.cons (by decide) (printable_apply scalar quoting)

theorem printable_entry {entry : PortEntry} {line : JsString}
    (member : line ∈ entry.lines) : Printable line := by
  cases entry with
  | short quoting port =>
      rw [List.mem_singleton.mp member]
      exact printable_indented 6 <| Printable.cons (by decide) <|
        Printable.cons (by decide) (printable_apply port.scalarText quoting)
  | long port =>
      have scalar := scalar_fields port
      rw [PortEntry.lines] at member
      cases fields : port.fields with
      | nil =>
          rw [fields] at member
          exact nomatch member
      | cons field rest =>
          obtain ⟨key, quoting, value⟩ := field
          rw [fields] at member scalar
          obtain ⟨valueScalar, restScalar⟩ := List.forall_mem_cons.mp scalar
          rcases List.mem_cons.mp member with rfl | later
          · exact printable_indented 6 <| Printable.cons (by decide) <|
              Printable.cons (by decide) (printable_fieldText valueScalar)
          · obtain ⟨⟨_, _, _⟩, otherMember, rfl⟩ := List.mem_map.mp later
            exact printable_indented 8
              (printable_fieldText (restScalar _ otherMember))

theorem oneLine_service {service : ComposeService} {line : JsString}
    (member : line ∈ service.lines) : 10 ∉ line ∧ 13 ∉ line := by
  rw [ComposeService.lines, List.mem_cons, List.mem_append, List.mem_cons,
    List.mem_append, List.mem_flatMap] at member
  rcases member with rfl | before | rfl | ⟨entry, _, inEntry⟩ | after
  · have name : Printable service.name := by
      apply printable_of_scalar
      intro unit inName
      exact isScalarUnit_of_isNameUnit (service.nameUnits unit inName)
    exact (printable_indented 2
      (name.append (Printable.singleton (by decide)))).oneLine
  · exact (service.beforeOther line before).2
  · decide
  · exact (printable_entry inEntry).oneLine
  · exact (service.afterOther line after).2

theorem oneLine_compose {compose : ComposeText} {line : JsString}
    (member : line ∈ compose.lines) : 10 ∉ line ∧ 13 ∉ line := by
  rw [ComposeText.lines, List.mem_append, List.mem_cons, List.mem_append,
    List.mem_flatMap] at member
  rcases member with header | rfl | ⟨service, _, inService⟩ | footer
  · exact (compose.headerOther line header).2
  · decide
  · exact oneLine_service inService
  · exact (compose.footerOther line footer).2

theorem mem_intercalate {lines : List JsString} {unit : UInt16}
    (member : unit ∈ [(10 : UInt16)].intercalate lines) :
    unit = 10 ∨ ∃ line ∈ lines, unit ∈ line := by
  induction lines with
  | nil => exact nomatch member
  | cons line rest inductionHypothesis =>
      cases rest with
      | nil =>
          rw [List.intercalate_singleton] at member
          exact Or.inr ⟨line, List.mem_cons_self, member⟩
      | cons next others =>
          rw [List.intercalate_cons_cons, List.mem_append, List.mem_append,
            List.mem_singleton] at member
          rcases member with (inLine | isEnd) | later
          · exact Or.inr ⟨line, List.mem_cons_self, inLine⟩
          · exact Or.inl isEnd
          · rcases inductionHypothesis later with isEnd | ⟨found, inRest, inside⟩
            · exact Or.inl isEnd
            · exact Or.inr ⟨found, List.mem_cons_of_mem _ inRest, inside⟩

/-- Lines that are joined come apart again. -/
theorem splitLines_intercalate {lines : List JsString}
    (nonempty : lines ≠ [])
    (plain : ∀ line ∈ lines, 10 ∉ line ∧ 13 ∉ line) :
    splitLines ([(10 : UInt16)].intercalate lines) = lines := by
  have noReturn : 13 ∉ [(10 : UInt16)].intercalate lines := by
    intro member
    rcases mem_intercalate member with isEnd | ⟨line, inLines, inLine⟩
    · exact absurd isEnd (by decide)
    · exact (plain line inLines).2 inLine
  rw [splitLines, replaceLineEnds_of_not_mem noReturn]
  exact List.splitOn_intercalate 10 (fun line member => (plain line member).1)
    nonempty

theorem splitLines_render (compose : ComposeText) :
    splitLines compose.render = compose.lines := by
  have nonempty : compose.lines ≠ [] := by
    rw [ComposeText.lines]
    exact List.append_ne_nil_of_right_ne_nil _ (List.cons_ne_nil _ _)
  exact splitLines_intercalate nonempty fun _ member => oneLine_compose member

/-- The check collects the mapping of every entry that has one. -/
theorem collectPortMappings_render (compose : ComposeText) :
    collectPortMappings compose.render =
      compose.entries.filterMap PortEntry.mapping? := by
  have start : Between [] ({} : PortScan) := ⟨Or.inl rfl, rfl⟩
  have services : scanLine {} (js "services:") = {} := by
    rfl
  have scanned := scan_outdented (scan_services compose.services start)
    compose.footerOther compose.footerOutdented
  rw [collectPortMappings, splitLines_render, ComposeText.lines,
    List.foldl_append, scan_other compose.headerOther rfl, List.foldl_cons,
    services, List.foldl_append]
  exact scanned.collected

end BidayaxExecutive.Reconciliation
