import Mathlib.Data.List.DropRight
import BidayaxExecutive.Reconciliation.ComposeRuntime
import BidayaxExecutive.Reconciliation.ComposeScan

/-!
# What the runtime check reads

A search over joined lines finds its match at the start of a line, behind white
space.  So a variable that is plainly placed is read from its own line, and the
check can be trusted where every variable is.
-/

namespace BidayaxExecutive.Reconciliation

open BidayaxExecutive.Runtime JsString

/-! ## Joined lines -/

/-- A text without the ends of lines. -/
def OneLine (line : JsString) : Prop :=
  ∀ unit ∈ line, isLineTerminator unit = false

theorem joinLines_cons (line next : JsString) (rest : List JsString) :
    joinLines (line :: next :: rest) =
      line ++ 10 :: joinLines (next :: rest) := by
  rw [joinLines, List.intercalate_cons_cons]
  simp [joinLines]

theorem joinLines_singleton (line : JsString) : joinLines [line] = line :=
  List.intercalate_singleton

/-- The lines that start where a search may match. -/
def firstLine (atStart : JsString → Option JsString) :
    List JsString → Option JsString
  | [] => none
  | line :: rest =>
      (atStart (joinLines (line :: rest))).or (firstLine atStart rest)

theorem firstAtLineStart_oneLine (atStart : JsString → Option JsString)
    {line : JsString} (oneLine : OneLine line) (rest : JsString) :
    firstAtLineStart atStart false (line ++ 10 :: rest) =
      firstAtLineStart atStart true rest := by
  induction line with
  | nil =>
      rw [List.nil_append, firstAtLineStart]
      rfl
  | cons unit line ih =>
      have here : isLineTerminator unit = false :=
        oneLine unit List.mem_cons_self
      rw [List.cons_append, firstAtLineStart, here]
      simp only [Bool.false_eq_true, if_false, Option.none_or]
      exact ih fun other member => oneLine other (List.mem_cons_of_mem _ member)

theorem firstAtLineStart_lastLine (atStart : JsString → Option JsString)
    {line : JsString} (oneLine : OneLine line) :
    firstAtLineStart atStart false line = none := by
  induction line with
  | nil => rfl
  | cons unit line ih =>
      have here : isLineTerminator unit = false :=
        oneLine unit List.mem_cons_self
      rw [firstAtLineStart, here]
      simp only [Bool.false_eq_true, if_false, Option.none_or]
      exact ih fun other member => oneLine other (List.mem_cons_of_mem _ member)

/-- The start of a text, and then the rest of its first line. -/
theorem firstAtLineStart_start (atStart : JsString → Option JsString)
    {line : JsString} (oneLine : OneLine line) (rest : JsString) :
    firstAtLineStart atStart true (line ++ 10 :: rest) =
      (atStart (line ++ 10 :: rest)).or
        (firstAtLineStart atStart true rest) := by
  cases line with
  | nil => rfl
  | cons unit line =>
      have here : isLineTerminator unit = false :=
        oneLine unit List.mem_cons_self
      rw [List.cons_append, firstAtLineStart, here, if_pos rfl,
        firstAtLineStart_oneLine atStart fun other member =>
          oneLine other (List.mem_cons_of_mem _ member)]

theorem firstAtLineStart_only (atStart : JsString → Option JsString)
    {line : JsString} (oneLine : OneLine line) :
    firstAtLineStart atStart true line = atStart line := by
  cases line with
  | nil => rfl
  | cons unit line =>
      have here : isLineTerminator unit = false :=
        oneLine unit List.mem_cons_self
      rw [firstAtLineStart, here, if_pos rfl,
        firstAtLineStart_lastLine atStart fun other member =>
          oneLine other (List.mem_cons_of_mem _ member), Option.or_none]

/-- A search over joined lines tries the starts of the lines. -/
theorem firstAtLineStart_joinLines (atStart : JsString → Option JsString)
    (nothing : atStart [] = none) {lines : List JsString}
    (oneLine : ∀ line ∈ lines, OneLine line) :
    firstAtLineStart atStart true (joinLines lines) =
      firstLine atStart lines := by
  induction lines with
  | nil => exact nothing
  | cons line rest ih =>
      rw [List.forall_mem_cons] at oneLine
      cases rest with
      | nil =>
          rw [firstLine, firstLine, Option.or_none, joinLines_singleton]
          exact firstAtLineStart_only atStart oneLine.1
      | cons next others =>
          rw [firstLine, ← ih oneLine.2, joinLines_cons,
            firstAtLineStart_start atStart oneLine.1]

/-! ## Behind white space -/

theorem dropWhile_blank_append {text : JsString} (blank : isBlank text = true)
    (rest : JsString) :
    (text ++ rest).dropWhile isSpace = rest.dropWhile isSpace :=
  List.dropWhile_append_of_pos (List.all_eq_true.mp blank)

theorem dropWhile_append_of_not_blank {text : JsString}
    (written : isBlank text = false) (rest : JsString) :
    (text ++ rest).dropWhile isSpace = text.dropWhile isSpace ++ rest := by
  rw [List.dropWhile_append, if_neg]
  rw [List.isEmpty_iff, List.dropWhile_eq_nil_iff, ← List.all_eq_true]
  exact Bool.eq_false_iff.mp written

theorem isSpace_newline : isSpace 10 = true := by
  decide

/-- Blank lines are passed over. -/
theorem dropWhile_joinLines_blank {line : JsString}
    (blank : isBlank line = true) (rest : List JsString) :
    (joinLines (line :: rest)).dropWhile isSpace =
      (joinLines rest).dropWhile isSpace := by
  cases rest with
  | nil =>
      rw [joinLines_singleton, ← List.append_nil line,
        dropWhile_blank_append blank]
      rfl
  | cons next others =>
      rw [joinLines_cons, dropWhile_blank_append blank,
        List.dropWhile_cons_of_pos isSpace_newline]

/-- What stands between a line and the text behind it. -/
def behindLine : List JsString → JsString
  | [] => []
  | next :: others => 10 :: joinLines (next :: others)

theorem joinLines_eq (line : JsString) (rest : List JsString) :
    joinLines (line :: rest) = line ++ behindLine rest := by
  cases rest with
  | nil => rw [joinLines_singleton, behindLine, List.append_nil]
  | cons next others => rw [joinLines_cons, behindLine]

theorem dropWhile_joinLines {line : JsString} (written : isBlank line = false)
    (rest : List JsString) :
    (joinLines (line :: rest)).dropWhile isSpace =
      line.dropWhile isSpace ++ behindLine rest := by
  rw [joinLines_eq, dropWhile_append_of_not_blank written]

/-- A start without white space does not reach behind its line. -/
theorem prefix_of_prefix_behindLine {start text : JsString}
    (solid : ∀ unit ∈ start, isSpace unit = false) {rest : List JsString}
    (starts : start <+: text ++ behindLine rest) : start <+: text := by
  cases rest with
  | nil =>
      rwa [behindLine, List.append_nil] at starts
  | cons next others =>
      obtain ⟨more, same⟩ := starts
      rw [behindLine] at same
      rcases List.append_eq_append_iff.mp same with
        ⟨inner, splits, _⟩ | ⟨inner, splits, onward⟩
      · exact ⟨inner, splits.symm⟩
      · cases inner with
        | nil => exact ⟨[], by rw [splits, List.append_nil, List.append_nil]⟩
        | cons unit inner =>
            rw [List.cons_append] at onward
            obtain ⟨rfl, _⟩ := List.cons.inj onward
            have visible := solid 10 (by rw [splits]; simp)
            rw [isSpace_newline] at visible
            cases visible

/-- What joined lines start with behind white space, one of the lines starts
with. -/
theorem exists_line_of_prefix {start : JsString} (filled : start ≠ [])
    (solid : ∀ unit ∈ start, isSpace unit = false) {lines : List JsString}
    (starts : start <+: (joinLines lines).dropWhile isSpace) :
    ∃ line ∈ lines, start <+: line.dropWhile isSpace := by
  induction lines with
  | nil => exact absurd (List.prefix_nil.mp starts) filled
  | cons line rest ih =>
      cases blank : isBlank line with
      | true =>
          rw [dropWhile_joinLines_blank blank] at starts
          obtain ⟨found, member, there⟩ := ih starts
          exact ⟨found, List.mem_cons_of_mem _ member, there⟩
      | false =>
          rw [dropWhile_joinLines blank] at starts
          exact ⟨line, List.mem_cons_self,
            prefix_of_prefix_behindLine solid starts⟩

/-! ## Searches -/

structure VariableName (name : JsString) : Prop where
  filled : name ≠ []
  units : ∀ unit ∈ name, isKeyUnit unit = true

theorem isSpace_of_isKeyUnit {unit : UInt16} (key : isKeyUnit unit = true) :
    isSpace unit = false := by
  apply isSpace_of_isScalarUnit
  simp only [isKeyUnit, Bool.or_eq_true, Bool.and_eq_true, decide_eq_true_eq,
    beq_iff_eq, UInt16.le_iff_toNat_le, ← UInt16.toNat_inj,
    UInt16.reduceToNat] at key
  simp only [isScalarUnit, Bool.and_eq_true, decide_eq_true_eq,
    UInt16.le_iff_toNat_le, UInt16.reduceToNat]
  omega

theorem behind?_eq_some {start text rest : JsString} :
    behind? start text = some rest ↔ text = start ++ rest := by
  rw [behind?]
  constructor
  · intro found
    rw [Option.ite_none_right_eq_some, List.isPrefixOf_iff_prefix] at found
    obtain ⟨⟨more, rfl⟩, same⟩ := found
    rw [← Option.some.inj same, List.drop_left]
  · rintro rfl
    rw [if_pos (List.isPrefixOf_iff_prefix.mpr (List.prefix_append _ _)),
      List.drop_left]

/-- The match of a field, behind white space. -/
def fieldMatch? (name text : JsString) : Option JsString :=
  (behind? (name ++ js ":") (text.dropWhile isSpace)).bind valueToLineEnd?

theorem mappingMatch?_eq (name text : JsString) :
    mappingMatch? name text =
      if text.head?.any isSpace then fieldMatch? name text else none :=
  rfl

theorem prefix_of_fieldMatch? {name text value : JsString}
    (found : fieldMatch? name text = some value) :
    name ++ js ":" <+: text.dropWhile isSpace := by
  obtain ⟨rest, there, _⟩ := Option.bind_eq_some_iff.mp found
  exact ⟨rest, (behind?_eq_some.mp there).symm⟩

section Named

variable {name : JsString} (variableName : VariableName name)

include variableName in
theorem VariableName.solid {mark : UInt16} (visible : isSpace mark = false) :
    ∀ unit ∈ name ++ [mark], isSpace unit = false := by
  intro unit member
  rcases List.mem_append.mp member with inName | isMark
  · exact isSpace_of_isKeyUnit (variableName.units unit inName)
  · rw [List.mem_singleton.mp isMark]
    exact visible

/-- No line starts with the text behind white space. -/
def NoneStarts (start : JsString) (lines : List JsString) : Prop :=
  ∀ line ∈ lines, ¬start <+: line.dropWhile isSpace

theorem noneStarts_of_field {lines : List JsString}
    (none : ∀ line ∈ lines, beginsField name line = false) :
    NoneStarts (name ++ js ":") lines := by
  intro line member starts
  rw [← List.isPrefixOf_iff_prefix] at starts
  exact Bool.eq_false_iff.mp (none line member) starts

include variableName in
theorem fieldMatch?_eq_none {lines : List JsString}
    (none : NoneStarts (name ++ js ":") lines) :
    fieldMatch? name (joinLines lines) = .none := by
  rw [Option.eq_none_iff_forall_not_mem]
  intro value found
  obtain ⟨line, member, starts⟩ := exists_line_of_prefix
    (List.append_ne_nil_of_left_ne_nil variableName.filled _)
    (variableName.solid (by decide)) (prefix_of_fieldMatch? found)
  exact none line member starts

theorem firstLine_eq_none {atStart : JsString → Option JsString}
    {lines : List JsString}
    (none : ∀ tail, tail <:+ lines → tail ≠ [] →
      atStart (joinLines tail) = .none) : firstLine atStart lines = .none := by
  induction lines with
  | nil => rfl
  | cons line rest ih =>
      rw [firstLine, none _ List.suffix_rfl (List.cons_ne_nil _ _),
        Option.none_or]
      exact ih fun tail isTail =>
        none tail (isTail.trans (List.suffix_cons _ _))

include variableName in
theorem firstLine_mapping_eq_none {lines : List JsString}
    (none : NoneStarts (name ++ js ":") lines) :
    firstLine (mappingMatch? name) lines = .none := by
  apply firstLine_eq_none
  intro tail isTail _
  rw [mappingMatch?_eq, fieldMatch?_eq_none variableName fun line member =>
    none line (isTail.subset member)]
  exact ite_self _

/-- A search whose earlier lines match nothing or the same finds the match of
a line. -/
theorem firstLine_eq_some {atStart : JsString → Option JsString}
    {before after : List JsString} {line value : JsString}
    (found : atStart (joinLines (line :: after)) = some value)
    (earlier : ∀ tail, tail <:+ before → tail ≠ [] →
      atStart (joinLines (tail ++ line :: after)) = none ∨
        atStart (joinLines (tail ++ line :: after)) = some value) :
    firstLine atStart (before ++ line :: after) = some value := by
  induction before with
  | nil =>
      rw [List.nil_append, firstLine, found, Option.some_or]
  | cons first before ih =>
      have later := ih fun tail isTail =>
        earlier tail (isTail.trans (List.suffix_cons _ _))
      rw [List.cons_append, firstLine]
      rcases earlier (first :: before) List.suffix_rfl
        (List.cons_ne_nil _ _) with nothing | same
      · rw [List.cons_append] at nothing
        rw [nothing, Option.none_or, later]
      · rw [List.cons_append] at same
        rw [same, Option.some_or]

include variableName in
/-- Before a field, blank lines match as the field does, and other lines do
not match. -/
theorem fieldMatch?_earlier {before after : List JsString}
    {line value : JsString}
    (found : fieldMatch? name (joinLines (line :: after)) = some value)
    (none : NoneStarts (name ++ js ":") before) :
    fieldMatch? name (joinLines (before ++ line :: after)) = .none ∨
      fieldMatch? name (joinLines (before ++ line :: after)) = some value := by
  induction before with
  | nil => exact Or.inr found
  | cons first before ih =>
      rw [NoneStarts, List.forall_mem_cons] at none
      rw [List.cons_append]
      cases blank : isBlank first with
      | true =>
          rw [fieldMatch?, dropWhile_joinLines_blank blank]
          exact ih none.2
      | false =>
          left
          rw [Option.eq_none_iff_forall_not_mem]
          intro other matched
          have starts := prefix_of_fieldMatch? matched
          rw [dropWhile_joinLines blank] at starts
          exact none.1 (prefix_of_prefix_behindLine
            (variableName.solid (by decide)) starts)

include variableName in
theorem firstLine_mapping_eq_some {before after : List JsString}
    {line value : JsString}
    (found : mappingMatch? name (joinLines (line :: after)) = some value)
    (none : NoneStarts (name ++ js ":") before) :
    firstLine (mappingMatch? name) (before ++ line :: after) = some value := by
  apply firstLine_eq_some found
  intro tail isTail _
  have field : fieldMatch? name (joinLines (line :: after)) = some value := by
    rw [mappingMatch?_eq, Option.ite_none_right_eq_some] at found
    exact found.2
  rw [mappingMatch?_eq]
  split_ifs
  · exact fieldMatch?_earlier variableName field fun other member =>
      none other (isTail.subset member)
  · exact Or.inl rfl

/-- The match of an item, for a text without white space before it. -/
def itemMatch? (name text : JsString) : Option JsString :=
  match text with
  | 45 :: unit :: item =>
      if isSpace unit then
        (behind? (name ++ js "=") (item.dropWhile isSpace)).bind restOfLine?
      else none
  | _ => none

theorem listMatch?_eq (name text : JsString) :
    listMatch? name text = itemMatch? name (text.dropWhile isSpace) :=
  rfl

theorem itemMatch?_eq_some {text value : JsString} :
    itemMatch? name text = some value ↔
      ∃ unit item rest, text = 45 :: unit :: item ∧ isSpace unit = true ∧
        item.dropWhile isSpace = (name ++ js "=") ++ rest ∧
        restOfLine? rest = some value := by
  constructor
  · intro matched
    unfold itemMatch? at matched
    split at matched
    · rename_i unit item
      rw [Option.ite_none_right_eq_some, Option.bind_eq_some_iff] at matched
      obtain ⟨blank, rest, there, isValue⟩ := matched
      exact ⟨unit, item, rest, rfl, blank, behind?_eq_some.mp there, isValue⟩
    · cases matched
  · rintro ⟨unit, item, rest, rfl, blank, there, isValue⟩
    rw [itemMatch?, if_pos blank, behind?_eq_some.mpr there]
    exact isValue

include variableName in
/-- The name of a variable does not start with a dash. -/
theorem not_prefix_dash {more item : JsString} :
    ¬name ++ more <+: 45 :: item := by
  intro starts
  cases shape : name with
  | nil => exact variableName.filled shape
  | cons unit others =>
      have key := variableName.units unit (by simp [shape])
      rw [shape, List.cons_append, List.cons_prefix_cons] at starts
      rw [starts.1] at key
      revert key
      decide

include variableName in
theorem beginsItem_of_start {line : JsString}
    (starts : name ++ js "=" <+: line.dropWhile isSpace) :
    beginsItem name line = true := by
  rw [beginsItem, List.isPrefixOf_iff_prefix, withoutDash]
  split
  · rename_i item dashed
    rw [dashed] at starts
    exact absurd starts (not_prefix_dash variableName)
  · exact starts

/-- What the lines start with, a written line or one before it starts with. -/
theorem exists_line_before {start : JsString}
    (solid : ∀ unit ∈ start, isSpace unit = false)
    {before after : List JsString} {line : JsString}
    (written : isBlank line = false)
    (starts : start <+:
      (joinLines (before ++ line :: after)).dropWhile isSpace) :
    ∃ found ∈ before ++ [line], start <+: found.dropWhile isSpace := by
  induction before with
  | nil =>
      rw [List.nil_append, dropWhile_joinLines written] at starts
      exact ⟨line, List.mem_singleton_self _,
        prefix_of_prefix_behindLine solid starts⟩
  | cons first before ih =>
      rw [List.cons_append] at starts
      cases blank : isBlank first with
      | true =>
          rw [dropWhile_joinLines_blank blank] at starts
          obtain ⟨found, member, there⟩ := ih starts
          exact ⟨found, List.mem_cons_of_mem _ member, there⟩
      | false =>
          rw [dropWhile_joinLines blank] at starts
          exact ⟨first, List.mem_cons_self,
            prefix_of_prefix_behindLine solid starts⟩

include variableName in
/-- A line with a dash matches only what it or a later line starts with. -/
theorem itemMatch?_eq_none {first : JsString} {rest : List JsString}
    (written : isBlank first = false) (absent : beginsItem name first = false)
    (unreached : ¬name ++ js "=" <+: (joinLines rest).dropWhile isSpace) :
    listMatch? name (joinLines (first :: rest)) = .none := by
  rw [Option.eq_none_iff_forall_not_mem]
  intro value matched
  rw [listMatch?_eq, dropWhile_joinLines written] at matched
  obtain ⟨unit, item, more, dashed, blank, starts, _⟩ :=
    itemMatch?_eq_some.mp matched
  cases kept : first.dropWhile isSpace with
  | nil =>
      rw [List.dropWhile_eq_nil_iff, ← List.all_eq_true] at kept
      exact absurd kept (Bool.eq_false_iff.mp written)
  | cons dash inner =>
      rw [kept, List.cons_append, ← joinLines_eq] at dashed
      obtain ⟨rfl, behind⟩ := List.cons.inj dashed
      have there : name ++ js "=" <+:
          (joinLines (inner :: rest)).dropWhile isSpace := by
        rw [behind, List.dropWhile_cons_of_pos blank, starts]
        exact List.prefix_append _ _
      cases empty : isBlank inner with
      | true =>
          rw [dropWhile_joinLines_blank empty] at there
          exact unreached there
      | false =>
          rw [dropWhile_joinLines empty] at there
          have inLine := prefix_of_prefix_behindLine
            (variableName.solid (by decide)) there
          refine Bool.eq_false_iff.mp absent ?_
          rw [beginsItem, withoutDash, kept, List.isPrefixOf_iff_prefix]
          exact inLine

include variableName in
/-- Before an item, blank lines match as the item does, and other lines do not
match. -/
theorem listMatch?_earlier {before after : List JsString}
    {line item value : JsString}
    (found : listMatch? name (joinLines (line :: after)) = some value)
    (dashed : line.dropWhile isSpace = 45 :: item)
    (none : ∀ other ∈ before, beginsItem name other = false) :
    listMatch? name (joinLines (before ++ line :: after)) = .none ∨
      listMatch? name (joinLines (before ++ line :: after)) = some value := by
  induction before with
  | nil => exact Or.inr found
  | cons first before ih =>
      rw [List.forall_mem_cons] at none
      rw [List.cons_append]
      cases blank : isBlank first with
      | true =>
          rw [listMatch?_eq, dropWhile_joinLines_blank blank]
          exact ih none.2
      | false =>
          left
          refine itemMatch?_eq_none variableName blank none.1 fun reached => ?_
          have written : isBlank line = false := by
            rw [Bool.eq_false_iff]
            intro allBlank
            rw [List.dropWhile_eq_nil_iff.mpr
              (List.all_eq_true.mp allBlank)] at dashed
            cases dashed
          obtain ⟨other, member, starts⟩ := exists_line_before
            (variableName.solid (by decide)) written reached
          rcases List.mem_append.mp member with earlier | isLine
          · exact Bool.eq_false_iff.mp (none.2 other earlier)
              (beginsItem_of_start variableName starts)
          · rw [List.mem_singleton.mp isLine, dashed] at starts
            exact not_prefix_dash variableName starts

include variableName in
theorem firstLine_list_eq_some {before after : List JsString}
    {line item value : JsString}
    (found : listMatch? name (joinLines (line :: after)) = some value)
    (dashed : line.dropWhile isSpace = 45 :: item)
    (none : ∀ other ∈ before, beginsItem name other = false) :
    firstLine (listMatch? name) (before ++ line :: after) = some value := by
  apply firstLine_eq_some found
  intro tail isTail _
  exact listMatch?_earlier variableName found dashed fun other member =>
    none other (isTail.subset member)

include variableName in
theorem listMatch?_eq_none {lines : List JsString}
    (none : ∀ line ∈ lines, beginsItem name line = false) :
    listMatch? name (joinLines lines) = .none := by
  induction lines with
  | nil => rfl
  | cons first rest ih =>
      rw [List.forall_mem_cons] at none
      cases blank : isBlank first with
      | true =>
          rw [listMatch?_eq, dropWhile_joinLines_blank blank]
          exact ih none.2
      | false =>
          refine itemMatch?_eq_none variableName blank none.1 fun reached => ?_
          obtain ⟨other, member, starts⟩ := exists_line_of_prefix
            (List.append_ne_nil_of_left_ne_nil variableName.filled _)
            (variableName.solid (by decide)) reached
          exact Bool.eq_false_iff.mp (none.2 other member)
            (beginsItem_of_start variableName starts)

include variableName in
theorem firstLine_list_eq_none {lines : List JsString}
    (none : ∀ line ∈ lines, beginsItem name line = false) :
    firstLine (listMatch? name) lines = .none := by
  apply firstLine_eq_none
  intro tail isTail _
  exact listMatch?_eq_none variableName fun line member =>
    none line (isTail.subset member)

/-! ## Plain settings -/

include variableName in
/-- A variable that no line begins with has no value. -/
theorem findEnvironmentValueInBlock_absent {block : List JsString}
    (oneLine : ∀ line ∈ block, OneLine line)
    (noField : ∀ line ∈ block, beginsField name line = false)
    (noItem : ∀ line ∈ block, beginsItem name line = false) :
    findEnvironmentValueInBlock block name = none := by
  rw [findEnvironmentValueInBlock, findEnvironmentValue,
    firstAtLineStart_joinLines _ rfl oneLine,
    firstAtLineStart_joinLines _ rfl oneLine,
    firstLine_mapping_eq_none variableName (noneStarts_of_field noField),
    firstLine_list_eq_none variableName noItem]
  rfl

theorem takeWhile_behindLine {text : JsString} (oneLine : OneLine text)
    (rest : List JsString) :
    (text ++ behindLine rest).takeWhile
        (fun unit => !isLineTerminator unit) = text := by
  rw [List.takeWhile_append_of_pos fun unit member => by
    rw [oneLine unit member]; rfl]
  cases rest with
  | nil => rw [behindLine, List.takeWhile_nil, List.append_nil]
  | cons next others =>
      rw [behindLine, List.takeWhile_cons_of_neg (by decide), List.append_nil]

theorem valueToLineEnd?_behindLine {text : JsString} (oneLine : OneLine text)
    (written : isBlank text = false) (rest : List JsString) :
    valueToLineEnd? (text ++ behindLine rest) =
      some (text.dropWhile isSpace) := by
  have kept : text.dropWhile isSpace ≠ [] := by
    rw [ne_eq, List.dropWhile_eq_nil_iff, ← List.all_eq_true]
    exact Bool.eq_false_iff.mp written
  have inner : OneLine (text.dropWhile isSpace) := fun unit member =>
    oneLine unit ((List.dropWhile_suffix _).subset member)
  rw [valueToLineEnd?]
  simp only [dropWhile_append_of_not_blank written]
  rw [if_neg, takeWhile_behindLine inner]
  rw [List.isEmpty_iff, List.append_eq_nil_iff, not_and_or]
  exact Or.inl kept

theorem restOfLine?_behindLine {text : JsString} (oneLine : OneLine text)
    (filled : text ≠ []) (rest : List JsString) :
    restOfLine? (text ++ behindLine rest) = some text := by
  rw [restOfLine?]
  simp only [takeWhile_behindLine oneLine]
  rw [if_neg (by rwa [List.isEmpty_iff])]

theorem stripYamlScalar_dropWhile (text : JsString) :
    stripYamlScalar (text.dropWhile isSpace) = stripYamlScalar text := by
  have idempotent : (text.dropWhile isSpace).dropWhile isSpace =
      text.dropWhile isSpace := List.dropWhile_idempotent _ _
  rw [stripYamlScalar, stripYamlScalar, trim, trim, idempotent]

theorem mappingMatch?_of_plainField {line value : JsString}
    (plain : isPlainField name value line = true) (oneLine : OneLine line)
    (after : List JsString) :
    ∃ text, mappingMatch? name (joinLines (line :: after)) = some text ∧
      stripYamlScalar text = value := by
  rw [isPlainField, Bool.and_eq_true] at plain
  obtain ⟨spaced, found⟩ := plain
  obtain ⟨text, behind, shape⟩ := (Option.any_eq_true _ _).mp found
  rw [Bool.and_eq_true, Bool.not_eq_true', beq_iff_eq] at shape
  have isContent := behind?_eq_some.mp behind
  have visible : isBlank line = false := by
    rw [Bool.eq_false_iff]
    intro allBlank
    rw [List.dropWhile_eq_nil_iff.mpr
      (List.all_eq_true.mp allBlank)] at isContent
    have isNil := (List.append_eq_nil_iff.mp isContent.symm).1
    have colonIsNil := (List.append_eq_nil_iff.mp isNil).2
    exact absurd colonIsNil (by decide)
  refine ⟨text.dropWhile isSpace, ?_, ?_⟩
  · have inText : OneLine text := fun unit member =>
      oneLine unit ((List.dropWhile_suffix isSpace).subset (by
        rw [isContent]
        exact List.mem_append_right _ member))
    have spacedWhole : (joinLines (line :: after)).head?.any isSpace =
        true := by
      cases line with
      | nil => exact absurd spaced Bool.false_ne_true
      | cons unit others =>
          rw [joinLines_eq]
          exact spaced
    rw [mappingMatch?_eq, if_pos spacedWhole, fieldMatch?,
      dropWhile_joinLines visible, isContent, List.append_assoc,
      behind?_eq_some.mpr rfl, Option.bind_some,
      valueToLineEnd?_behindLine inText shape.1]
  · rw [stripYamlScalar_dropWhile, shape.2]

theorem listMatch?_of_plainItem {line value : JsString}
    (plain : isPlainItem name value line = true) (oneLine : OneLine line)
    (after : List JsString) :
    listMatch? name (joinLines (line :: after)) = some value ∧
      (∃ item, line.dropWhile isSpace = 45 :: item) ∧
      stripYamlScalar value = value := by
  unfold isPlainItem at plain
  split at plain
  · rename_i unit item dashed
    simp only [Bool.and_eq_true, beq_iff_eq, Bool.not_eq_true',
      List.isEmpty_eq_false_iff] at plain
    obtain ⟨⟨⟨blank, behind⟩, filled⟩, stripped⟩ := plain
    have isItem := behind?_eq_some.mp behind
    have visible : isBlank line = false := by
      rw [Bool.eq_false_iff]
      intro allBlank
      rw [List.dropWhile_eq_nil_iff.mpr
        (List.all_eq_true.mp allBlank)] at dashed
      cases dashed
    have itemVisible : isBlank item = false := by
      rw [Bool.eq_false_iff]
      intro allBlank
      rw [List.dropWhile_eq_nil_iff.mpr
        (List.all_eq_true.mp allBlank)] at isItem
      exact filled (List.append_eq_nil_iff.mp isItem.symm).2
    have inItem : value ⊆ line := by
      intro other member
      refine (List.dropWhile_suffix isSpace).subset ?_
      rw [dashed]
      refine List.mem_cons_of_mem _ (List.mem_cons_of_mem _ ?_)
      refine (List.dropWhile_suffix isSpace).subset ?_
      rw [isItem]
      exact List.mem_append_right _ member
    refine ⟨?_, ⟨_, dashed⟩, stripped⟩
    rw [listMatch?_eq, dropWhile_joinLines visible, dashed,
      itemMatch?_eq_some]
    refine ⟨unit, item ++ behindLine after, value ++ behindLine after, rfl,
      blank, ?_, restOfLine?_behindLine (fun other member =>
        oneLine other (inItem member)) filled after⟩
    rw [dropWhile_append_of_not_blank itemVisible, isItem, List.append_assoc]
  · exact absurd plain Bool.false_ne_true

include variableName in
/-- A variable that is plainly set has the value of its line. -/
theorem findEnvironmentValueInBlock_plain {block : List JsString}
    {value : JsString} (oneLine : ∀ line ∈ block, OneLine line)
    (plain : PlainlySet block name value) :
    findEnvironmentValueInBlock block name = some value := by
  obtain ⟨line, _, _, form⟩ := plain.placed
  rw [findEnvironmentValueInBlock, findEnvironmentValue,
    firstAtLineStart_joinLines _ rfl oneLine,
    firstAtLineStart_joinLines _ rfl oneLine]
  rcases form with ⟨field, isFirst⟩ | ⟨item, noField, isFirst⟩
  · obtain ⟨_, before, after, rfl, earlier⟩ :=
      List.find?_eq_some_iff_append.mp isFirst
    obtain ⟨text, found, isValue⟩ :=
      mappingMatch?_of_plainField field (oneLine line (by simp)) after
    rw [firstLine_mapping_eq_some variableName found
      (noneStarts_of_field fun other member => by
        simpa using earlier other member)]
    exact congrArg some isValue
  · obtain ⟨_, before, after, rfl, earlier⟩ :=
      List.find?_eq_some_iff_append.mp isFirst
    obtain ⟨found, ⟨_, dashed⟩, stripped⟩ :=
      listMatch?_of_plainItem item (oneLine line (by simp)) after
    rw [firstLine_mapping_eq_none variableName
        (noneStarts_of_field fun other member => by
          simpa using List.find?_eq_none.mp noField other member),
      firstLine_list_eq_some variableName found dashed fun other member => by
        simpa using earlier other member]
    exact congrArg some stripped

end Named

/-! ## Blocks -/

theorem dropWhile_congr_of_first (first second : JsString → Bool)
    {lines : List JsString} (covers : ∀ line, first line = true →
      second line = true)
    (earlier : ∀ line ∈ lines.takeWhile fun line => !first line,
      second line = false) :
    (lines.dropWhile fun line => !second line) =
      lines.dropWhile fun line => !first line := by
  induction lines with
  | nil => rfl
  | cons line rest ih =>
      cases here : first line with
      | true =>
          rw [List.dropWhile_cons_of_neg (by simp [covers line here]),
            List.dropWhile_cons_of_neg (by simp [here])]
      | false =>
          rw [List.takeWhile_cons_of_pos (by simp [here]),
            List.forall_mem_cons] at earlier
          rw [List.dropWhile_cons_of_pos (by simp [earlier.1]),
            List.dropWhile_cons_of_pos (by simp [here]), ih earlier.2]

/-- White space around a text that starts and ends with something else. -/
theorem trim_surrounded {lead core trail : JsString}
    (leadBlank : ∀ unit ∈ lead, isSpace unit = true)
    (trailBlank : ∀ unit ∈ trail, isSpace unit = true)
    (starts : ∃ unit rest, core = unit :: rest ∧ isSpace unit = false)
    (ends : ∃ front unit, core = front ++ [unit] ∧ isSpace unit = false) :
    trim (lead ++ (core ++ trail)) = core := by
  obtain ⟨first, rest, startsWith, firstVisible⟩ := starts
  obtain ⟨front, last, endsWith, lastVisible⟩ := ends
  have kept : (core ++ trail).dropWhile isSpace = core ++ trail := by
    rw [startsWith, List.cons_append, List.dropWhile_cons_of_neg]
    rw [firstVisible]
    exact Bool.false_ne_true
  have keptBack : core.reverse.dropWhile isSpace = core.reverse := by
    rw [endsWith, List.reverse_append, List.reverse_singleton,
      List.singleton_append, List.dropWhile_cons_of_neg]
    rw [lastVisible]
    exact Bool.false_ne_true
  rw [trim, List.dropWhile_append_of_pos leadBlank, kept,
    List.reverse_append, List.dropWhile_append_of_pos fun unit member =>
      trailBlank unit (List.mem_reverse.mp member), keptBack,
    List.reverse_reverse]

theorem isSpace_of_isChildUnit {unit : UInt16}
    (child : isChildUnit unit = true) : isSpace unit = false := by
  rw [isChildUnit, Bool.or_eq_true, Bool.or_eq_true] at child
  rcases child with (digit | key) | dash
  · exact isSpace_of_isScalarUnit (isScalarUnit_of_isDigit digit)
  · exact isSpace_of_isKeyUnit key
  · rw [beq_iff_eq.mp dash]
    decide

theorem namedChild?_eq_some {line name : JsString}
    (child : namedChild? line = some name) :
    ∃ after, line = 32 :: 32 :: (name ++ 58 :: after) ∧
      isBlank after = true ∧ name ≠ [] ∧
      ∀ unit ∈ name, isChildUnit unit = true := by
  unfold namedChild? at child
  split at child
  · rename_i rest
    split at child
    · rename_i after kept
      rw [Option.ite_none_right_eq_some, Bool.and_eq_true,
        Bool.not_eq_true', List.isEmpty_eq_false_iff] at child
      obtain ⟨⟨filled, blank⟩, same⟩ := child
      obtain rfl := Option.some.inj same
      refine ⟨after, ?_, blank, filled,
        List.all_eq_true.mp List.all_takeWhile⟩
      rw [← kept, List.takeWhile_append_dropWhile]
    · cases child
  · cases child

/-- The line of a child names it. -/
theorem namesChild_of_namedChild? {line name : JsString}
    (child : namedChild? line = some name) : namesChild name line = true := by
  obtain ⟨after, rfl, blank, filled, units⟩ := namedChild?_eq_some child
  obtain ⟨unit, others, rfl⟩ := List.exists_cons_of_ne_nil filled
  have visible := isSpace_of_isChildUnit (units unit List.mem_cons_self)
  have trimmed : trim (32 :: 32 :: (unit :: others ++ 58 :: after)) =
      unit :: others ++ [58] := by
    have shape : 32 :: 32 :: (unit :: others ++ 58 :: after) =
        [32, 32] ++ ((unit :: others ++ [58]) ++ after) := by
      simp
    have spaces : ∀ blankUnit ∈ [(32 : UInt16), 32],
        isSpace blankUnit = true := List.all_eq_true.mp (by decide)
    rw [shape]
    refine trim_surrounded spaces (List.all_eq_true.mp blank)
      ⟨unit, others ++ [58], by simp, visible⟩
      ⟨unit :: others, 58, rfl, by decide⟩
  rw [namesChild, trimmed, Bool.and_eq_true, beq_iff_eq]
  exact ⟨rfl, rfl⟩

/-- Where no earlier line names the service, the check takes its block. -/
theorem getNamedChildBlock_eq {sectionLines : List JsString}
    {service : JsString}
    (first : ∀ line ∈ sectionLines.takeWhile fun line =>
      namedChild? line != some service, namesChild service line = false) :
    getNamedChildBlock sectionLines service =
      ownBlock sectionLines service := by
  have same := dropWhile_congr_of_first
    (fun line => namedChild? line == some service) (namesChild service)
    (fun line here => namesChild_of_namedChild? (beq_iff_eq.mp here)) first
  rw [getNamedChildBlock, ownBlock, same]
  rfl

/-! ## The settings of a block -/

/-- A variable that is plainly set has one value. -/
theorem mem_ownEnvironment_plain {block : List JsString}
    {name value other : JsString} (plain : PlainlySet block name value) :
    (name, other) ∈ ownEnvironment block ↔ other = value := by
  constructor
  · exact fun sets => plain.once _ sets rfl
  · rintro rfl
    obtain ⟨line, inSettings, sets, _⟩ := plain.placed
    exact List.mem_filterMap.mpr ⟨line, inSettings, sets⟩

/-! ## Files of variables -/

theorem scanEnvFile_closed {scan : EnvFileScan} {lines : List JsString}
    (none : ∀ line ∈ lines, isEnvFileLine line = false)
    (closed : scan.envFileIndent = .none) :
    lines.foldl scanEnvFileLine scan = scan := by
  induction lines with
  | nil => rfl
  | cons line rest ih =>
      rw [List.forall_mem_cons] at none
      have kept : scanEnvFileLine scan line = scan := by
        simp [scanEnvFileLine, none.1, closed]
      rw [List.foldl_cons, kept]
      exact ih none.2

/-- The files that a list of lines names. -/
def envFileItems (read : JsString → JsString) (lines : List JsString) :
    List JsString :=
  lines.filterMap fun line => (listItem? line).map read

theorem listItem?_blank {line : JsString}
    (blank : searchNonSpace line = none) : listItem? line = none := by
  have allBlank : line.dropWhile isSpace = [] := by
    rw [searchNonSpace, List.findIdx?_eq_none_iff] at blank
    rw [List.dropWhile_eq_nil_iff]
    intro unit member
    simpa using blank unit member
  rw [listItem?, allBlank]

theorem scanEnvFile_open {scan : EnvFileScan} {lines : List JsString}
    {indent : Nat} (none : ∀ line ∈ lines, isEnvFileLine line = false)
    (isOpen : scan.envFileIndent = some indent) :
    (lines.foldl scanEnvFileLine scan).envFiles =
      scan.envFiles ++
        envFileItems stripYamlScalar (lines.takeWhile (isNested indent)) := by
  induction lines generalizing scan with
  | nil =>
      exact (List.append_nil _).symm
  | cons line rest ih =>
      rw [List.forall_mem_cons] at none
      rw [List.foldl_cons]
      cases depth : searchNonSpace line with
      | none =>
          have kept : scanEnvFileLine scan line = scan := by
            simp [scanEnvFileLine, none.1, isOpen, depth]
          have nested : isNested indent line = true := by
            rw [isNested, depth]
            rfl
          rw [kept, ih none.2 isOpen, List.takeWhile_cons_of_pos nested,
            envFileItems, envFileItems, List.filterMap_cons,
            listItem?_blank depth]
          rfl
      | some deeper =>
          by_cases inside : indent < deeper
          · have nested : isNested indent line = true := by
              rw [isNested, depth]
              simpa using inside
            have stepped : scanEnvFileLine scan line =
                { scan with
                  envFiles := scan.envFiles ++
                    ((listItem? line).map stripYamlScalar).toList } := by
              simp [scanEnvFileLine, none.1, isOpen, depth,
                Nat.not_le.mpr inside]
            rw [stepped, ih none.2 (by exact isOpen),
              List.takeWhile_cons_of_pos nested, envFileItems, envFileItems,
              List.filterMap_cons, List.append_assoc]
            cases (listItem? line).map stripYamlScalar with
            | none => rfl
            | some item => rfl
          · have outside : ¬isNested indent line = true := by
              rw [isNested, depth]
              simpa using inside
            have stepped : scanEnvFileLine scan line =
                { scan with envFileIndent := .none } := by
              simp [scanEnvFileLine, none.1, isOpen, depth,
                Nat.not_lt.mp inside]
            rw [stepped, scanEnvFile_closed none.2 rfl,
              List.takeWhile_cons_of_neg outside]
            exact (List.append_nil _).symm

theorem dropWhile_to_first {test : JsString → Bool}
    {block before after : List JsString} {line : JsString}
    (shape : block = before ++ line :: after)
    (earlier : ∀ other ∈ before, test other = false)
    (here : test line = true) :
    (block.dropWhile fun other => !test other) = line :: after := by
  rw [shape, List.dropWhile_append_of_pos fun other member => by
    rw [earlier other member]; rfl]
  rw [List.dropWhile_cons_of_neg]
  simp [here]

/-- The only list of files, where it is the service's own, is read as it
is. -/
theorem collectEnvFiles_eq {block : List JsString} {name : JsString}
    (plain : PlainlyUnset block name) :
    collectEnvFiles block = [] ∨ collectEnvFiles block = ownEnvFiles block := by
  by_cases lists : ∃ line ∈ block, isEnvFileLine line = true
  · right
    obtain ⟨line, member, isList⟩ := lists
    obtain ⟨before, after, shape⟩ := List.append_of_mem member
    have counted := plain.once
    rw [shape, List.filter_append, List.filter_cons_of_pos isList,
      List.length_append, List.length_cons] at counted
    have noneBefore : ∀ other ∈ before, isEnvFileLine other = false := by
      have empty : before.filter isEnvFileLine = [] :=
        List.eq_nil_of_length_eq_zero (by omega)
      intro other inBefore
      exact Bool.eq_false_iff.mpr
        (List.filter_eq_nil_iff.mp empty other inBefore)
    have noneAfter : ∀ other ∈ after, isEnvFileLine other = false := by
      have empty : after.filter isEnvFileLine = [] :=
        List.eq_nil_of_length_eq_zero (by omega)
      intro other inAfter
      exact Bool.eq_false_iff.mpr
        (List.filter_eq_nil_iff.mp empty other inAfter)
    have own := plain.ownFiles line member isList
    have depth : searchNonSpace line = some (blockIndent block) := by
      rw [isOwnKey, Bool.and_eq_true, beq_iff_eq] at own
      exact own.2
    have notOwn : ∀ other ∈ before,
        isOwnKey block (js "env_file") other = false := by
      intro other inBefore
      have notList := noneBefore other inBefore
      rw [isEnvFileLine] at notList
      rw [isOwnKey, notList, Bool.false_and]
    have settings : settingsUnder block (js "env_file") =
        after.takeWhile (isNested (blockIndent block)) := by
      rw [settingsUnder, dropWhile_to_first shape notOwn own]
      rfl
    have opened : scanEnvFileLine {} line =
        { envFiles := [], envFileIndent := some (blockIndent block) } := by
      rw [scanEnvFileLine, if_pos isList, depth]
    have collected : collectEnvFiles block = envFileItems stripYamlScalar
        (settingsUnder block (js "env_file")) := by
      rw [settings, collectEnvFiles, shape, List.foldl_append,
        scanEnvFile_closed noneBefore rfl, List.foldl_cons, ← shape, opened,
        scanEnvFile_open noneAfter rfl, List.nil_append]
    rw [collected, ownEnvFiles, envFileItems]
    refine List.filterMap_congr fun other inSettings => ?_
    refine Option.map_congr fun item isItem => ?_
    exact plain.scalars other inSettings item isItem
  · left
    have none : ∀ line ∈ block, isEnvFileLine line = false := by
      intro line member
      exact Bool.eq_false_iff.mpr fun isList => lists ⟨line, member, isList⟩
    rw [collectEnvFiles, scanEnvFile_closed none rfl]

/-! ## The report -/

theorem runtimeFailure?_eq_none {service : JsString} {block : List JsString}
    {checked : RuntimeVariable} :
    runtimeFailure? service block checked = none ↔
      (findEnvironmentValueInBlock block checked.name = none ∧
        hasApprovedRuntimeEnvFile block = true) ∨
      checked.accepts
        (findEnvironmentValueInBlock block checked.name) = true := by
  simp only [runtimeFailure?, Bool.and_eq_true, Option.isNone_iff_eq_none]
  split_ifs with excused accepted
  · exact iff_of_true rfl (Or.inl excused)
  · exact iff_of_true rfl (Or.inr accepted)
  · exact iff_of_false nofun (not_or.mpr ⟨excused, accepted⟩)

theorem runtimePassed_iff (renderedCompose : JsString) :
    (validateRuntimeEnvironment renderedCompose).status = .passed ↔
      ∀ service ∈ checkedServices, ∀ checked ∈ runtimeVariables,
        runtimeFailure? service
          (getNamedChildBlock (servicesSection renderedCompose) service)
          checked = none := by
  rw [validateRuntimeEnvironment, status_result, List.isEmpty_iff,
    collectRuntimeEnvironmentFailures, List.flatMap_eq_nil_iff]
  simp only [List.filterMap_eq_nil_iff]

/-- The names that are checked are names, and a missing value is not
accepted. -/
theorem runtimeVariables_checked : ∀ checked ∈ runtimeVariables,
    VariableName checked.name ∧ checked.accepts none = false := by
  have names : ∀ checked ∈ runtimeVariables, checked.name ≠ [] ∧
      (checked.name.all isKeyUnit = true) ∧ checked.accepts none = false := by
    decide
  intro checked member
  obtain ⟨filled, units, missing⟩ := names checked member
  exact ⟨⟨filled, List.all_eq_true.mp units⟩, missing⟩

/-- A variable that is plainly placed and does not fail is settled by the
service itself. -/
theorem settled_of_plainlyPlaced {sectionLines : List JsString}
    {service : JsString} {checked : RuntimeVariable}
    (member : checked ∈ runtimeVariables)
    (placed : PlainlyPlaced sectionLines service checked.name)
    (noFailure : runtimeFailure? service
      (getNamedChildBlock sectionLines service) checked = none) :
    Settled sectionLines service checked := by
  obtain ⟨variableName, missing⟩ := runtimeVariables_checked checked member
  have oneLine : ∀ line ∈ ownBlock sectionLines service, OneLine line :=
    fun line inBlock unit inLine => Bool.eq_false_of_not_eq_true
      (List.any_eq_false.mp (placed.oneLine line inBlock) unit inLine)
  rw [getNamedChildBlock_eq placed.first, runtimeFailure?_eq_none] at noFailure
  rcases placed.setting with ⟨⟨_, value⟩, _, plain⟩ | plain
  · rw [findEnvironmentValueInBlock_plain variableName oneLine
      plain] at noFailure
    have accepted : checked.accepts (some value) = true :=
      noFailure.resolve_left fun excused => nomatch excused.1
    refine ⟨fun other sets => ?_, fun unset => ?_⟩
    · rw [(mem_ownEnvironment_plain plain).mp sets]
      exact accepted
    · exact absurd ((mem_ownEnvironment_plain plain).mpr rfl) (unset value)
  · rw [findEnvironmentValueInBlock_absent variableName oneLine
      plain.noField plain.noItem, missing] at noFailure
    have approved := (noFailure.resolve_right Bool.false_ne_true).2
    refine ⟨fun other sets => absurd rfl (plain.unset _ sets), fun _ => ?_⟩
    · rw [hasApprovedRuntimeEnvFile, List.any_eq_true] at approved
      obtain ⟨file, listed, isApproved⟩ := approved
      rcases collectEnvFiles_eq plain with nothing | same
      · rw [nothing] at listed
        cases listed
      · rw [same] at listed
        exact ⟨file, listed, List.contains_iff_mem.mp isApproved⟩

/-- Lines with a file of variables for a service. -/
def envFileLines : List JsString :=
  [js "    env_file:",
    js "      - /opt/the-executive-card/shared/env/production.env"]

/-- The card sets three of the variables and has a file for the others; a label
has the name of one. -/
def cardLines : List JsString :=
  [js "  card:", js "    environment:",
    js "      TELEPHONY_PROVIDER: mock",
    js "      TELEPHONY_PROVIDER_MODE: disabled",
    js "      VOICE_TEST_MODE: \"true\"", js "    labels:",
    js "      TELEPHONY_PROVIDER: live"] ++ envFileLines

/-- The dashboard depends on the card, sets two of the variables in a list and
has a file for the others. -/
def dashboardLines : List JsString :=
  [js "  dashboard:", js "    depends_on:", js "      card:",
    js "        condition: service_started", js "    environment:",
    js "      - TELEPHONY_PROVIDER=mock",
    js "      - TELEPHONY_PROVIDER_MODE=disabled"] ++ envFileLines

def renderedServices : JsString :=
  joinLines (js "services:" :: (cardLines ++ dashboardLines))

theorem servicesSection_rendered :
    servicesSection renderedServices = cardLines ++ dashboardLines := by
  have plain : ∀ line ∈ js "services:" :: (cardLines ++ dashboardLines),
      10 ∉ line ∧ 13 ∉ line := by
    decide +kernel
  rw [servicesSection, renderedServices, joinLines,
    splitLines_intercalate (List.cons_ne_nil _ _) plain]
  decide +kernel

/-- The dashboard depends on the card, which allows production calls. -/
def dependentDashboard : JsString :=
  joinLines ([js "services:", js "  dashboard:", js "    depends_on:",
      js "      card:", js "        condition: service_started"] ++
    envFileLines ++
    [js "  card:", js "    environment:",
      js "      ALLOW_PRODUCTION_CALLS: \"true\""])

end BidayaxExecutive.Reconciliation
