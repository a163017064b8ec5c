import BidayaxExecutive.Reconciliation.ColumnClauses

/-!
# What the parser reads of a table

A script is a row of statements that create tables, with other text between
them.  Each statement is found, its body is split into its entries, and a
plainly written column yields the object and the constraints that it declares.
-/

namespace BidayaxExecutive.Reconciliation.ColumnDefinitions

open BidayaxExecutive.Runtime JsString
open BidayaxExecutive.Library.Backtracking
open BidayaxExecutive.Library.Backtracking.Regex
open BidayaxExecutive.Library.Captures
open BidayaxExecutive.Library.Nesting
open BidayaxExecutive.Reconciliation.MigrationParser

/-! ## Statements -/

/-- A name and the definition behind it. -/
structure Column where
  name : Part
  gap : Gap
  definition : ColumnDefinition

inductive Entry where
  | column (written : Column)
  | other (part : Part)

/-- An entry with the white space around it. -/
structure Padded where
  lead : Blank
  entry : Entry
  trail : Blank

/-- What stands in the parentheses: entries, or a text of any other kind. -/
inductive TableBody where
  | entries (first : Padded) (others : List Padded)
  | other (text : JsString)

structure TableStatement where
  gap : Gap
  name : JsString
  named : name ≠ []
  wordUnits : ∀ unit ∈ name, isAsciiWordUnit unit = true
  blank : Blank
  body : TableBody

def Column.text (column : Column) : JsString :=
  column.name.text ++ (column.gap.text ++ column.definition.text)

def Entry.text : Entry → JsString
  | column written => written.text
  | other part => part.text

def Padded.text (padded : Padded) : JsString :=
  padded.lead.text ++ (padded.entry.text ++ padded.trail.text)

def TableBody.text : TableBody → JsString
  | entries first others => [44].intercalate ((first :: others).map Padded.text)
  | other text => text

def Entry.column? : Entry → Option Column
  | column written => some written
  | other _ => none

def TableBody.columns : TableBody → List Column
  | entries first others =>
      (first :: others).filterMap fun padded => padded.entry.column?
  | other _ => []

namespace TableStatement

def opening : JsString :=
  js "CREATE TABLE IF NOT EXISTS"

def text (statement : TableStatement) : JsString :=
  opening ++ (statement.gap.text ++ (statement.name ++
    (statement.blank.text ++ 40 :: (statement.body.text ++ [41, 59]))))

end TableStatement

/-- The statements of a script, each with the text in front of it. -/
def scriptText (trail : JsString) :
    List (JsString × TableStatement) → JsString
  | [] => trail
  | (lead, statement) :: others =>
      lead ++ (statement.text ++ scriptText trail others)

/-! ## What is declared -/

section Platform

variable (platform : SchemaPlatform)

namespace Column

/-- The object of a column; what is generated is left as it is read. -/
def declared (tableName : JsString) (column : Column) : SchemaObject :=
  createColumn platform tableName column.name.text <|
    columnMetadata platform column.definition.typeName
      column.definition.nullable column.definition.defaultExpression
      (isGenerated column.definition.text)
      (generationText column.definition.text)

def declaredConstraints (tableName : JsString) (column : Column) :
    List SchemaObject :=
  (column.definition.constraints platform column.name.text).map
    (createConstraint platform tableName)

end Column

/-- The columns and the constraints of an entry. -/
def Entry.declared (tableName : JsString) :
    Entry → List SchemaObject × List SchemaObject
  | column written =>
      ([written.declared platform tableName],
        written.declaredConstraints platform tableName)
  | other part => readEntry platform tableName part.text

/-- The object of the table, those of its columns and its constraints. -/
def tableObjects (tableName : JsString)
    (entries : List (List SchemaObject × List SchemaObject)) :
    List SchemaObject :=
  let columnObjects := entries.flatMap Prod.fst
  createObject platform .table (js "public")
      (MigrationParser.normalizeName platform tableName)
      [(js "columns", textArray (columnObjects.map (·.objectName)))] none ::
      (columnObjects ++ entries.flatMap Prod.snd)

/-- A body that is no row of entries is left as it is read. -/
def TableStatement.declared (statement : TableStatement) : List SchemaObject :=
  match statement.body with
  | .entries first others =>
      tableObjects platform statement.name <|
        (first :: others).map fun padded =>
          padded.entry.declared platform statement.name
  | .other text => readTable platform statement.name text

/-! ## Plainly written scripts -/

/-- The name is a row of word units that opens no constraint of the table. -/
structure PlainColumn (column : Column) : Prop where
  named : ∀ unit ∈ column.name.text, isAsciiWordUnit unit = true
  unopened : opensTableConstraint column.text = false
  written : PlainlyWritten platform column.definition

end Platform

/-- No other statement begins between the statements, and no statement has a
parenthesis and a semicolon in its body. -/
def PlainScript (trail : JsString) :
    JsString → List (JsString × TableStatement) → Prop
  | passed, [] => createTable.beginsIn passed trail [] = false
  | passed, (lead, statement) :: others =>
      createTable.beginsIn passed lead
          (statement.text ++ scriptText trail others) = false ∧
        ¬js ");" <:+: statement.body.text ∧
        PlainScript trail (statement.text.reverse ++ (lead.reverse ++ passed))
          others

/-! ## Entries -/

theorem Column.tight (column : Column) : Tight column.text :=
  column.name.tight.join column.gap.text column.definition.tight

theorem Column.balanced (column : Column) :
    Balanced csvMarks false column.text :=
  column.name.balanced.append
    ((column.gap.toBlank.balanced false).append column.definition.balanced)

theorem Entry.tight (entry : Entry) : Tight entry.text := by
  cases entry with
  | column written => exact written.tight
  | other part => exact part.tight

theorem Entry.balanced (entry : Entry) :
    Balanced csvMarks false entry.text := by
  cases entry with
  | column written => exact written.balanced
  | other part => exact part.balanced

theorem Padded.balanced (padded : Padded) :
    Balanced csvMarks false padded.text :=
  (padded.lead.balanced false).append
    (padded.entry.balanced.append (padded.trail.balanced false))

theorem Padded.kept (padded : Padded) :
    keptPart padded.text = [padded.entry.text] :=
  keptPart_of_trim padded.entry.tight.ne_nil
    (trim_padded padded.lead.blank padded.entry.tight padded.trail.blank)

section Entries

variable (first : Padded) (others : List Padded)

/-- The body is split into the texts of its entries. -/
theorem splitTopLevelCsv_entries :
    splitTopLevelCsv (TableBody.entries first others).text =
      (first :: others).map fun padded => padded.entry.text := by
  have balanced : ∀ part ∈ (first :: others).map Padded.text,
      Balanced csvMarks false part := by
    intro part member
    obtain ⟨padded, _, rfl⟩ := List.mem_map.mp member
    exact padded.balanced
  have split : csvMarks.split (TableBody.entries first others).text =
      (first :: others).map Padded.text :=
    split_joined balanced
  rw [splitTopLevelCsv_eq, split, List.flatMap_map,
    List.flatMap_congr (fun padded _ => padded.kept)]
  exact List.flatMap_pure_eq_map _ _

theorem entries_ne_nil : (TableBody.entries first others).text ≠ [] := by
  have filled : first.text ≠ [] := by
    intro empty
    rw [Padded.text, List.append_eq_nil_iff, List.append_eq_nil_iff] at empty
    exact first.entry.tight.ne_nil empty.2.1
  obtain ⟨unit, rest, isText⟩ := List.exists_cons_of_ne_nil filled
  rw [TableBody.text, List.map_cons, isText]
  cases others <;> simp [List.intercalate]

theorem readTable_entries (platform : SchemaPlatform) {tableName : JsString}
    (named : tableName ≠ []) :
    readTable platform tableName (TableBody.entries first others).text =
      tableObjects platform tableName ((first :: others).map fun padded =>
        readEntry platform tableName padded.entry.text) := by
  have isFilled : (tableName.isEmpty ||
      (TableBody.entries first others).text.isEmpty) = false := by
    rw [Bool.or_eq_false_iff, List.isEmpty_eq_false_iff,
      List.isEmpty_eq_false_iff]
    exact ⟨named, entries_ne_nil first others⟩
  rw [readTable, isFilled, if_neg Bool.false_ne_true,
    splitTopLevelCsv_entries, List.map_map]
  rfl

end Entries

namespace TableStatement

variable (statement : TableStatement)

/-! ## Searching for statements -/

/-- No statement ends inside a body. -/
theorem readPieces_end_eq_none {passed start others rest : JsString}
    (unended : ¬js ");" <:+: statement.body.text)
    (splits : statement.body.text = start ++ others) (filled : others ≠ []) :
    readPieces (fun _ => true) [closeParen, one (· == 59)]
      (passed, others ++ 41 :: rest) = none := by
  obtain ⟨unit, others, rfl⟩ := List.exists_cons_of_ne_nil filled
  have closing : js ");" = [41, 59] := by decide
  refine readPieces_eq_none fun middle member => ?_
  rw [List.cons_append, closeParen, Regex.ends, List.mem_ite_nil_right,
    List.mem_singleton, beq_iff_eq] at member
  obtain ⟨rfl, rfl⟩ := member
  apply readPieces_one_eq_none
  cases others with
  | nil =>
      rfl
  | cons next others =>
      have other : next ≠ 59 := by
        rintro rfl
        refine unended ⟨start, others, ?_⟩
        rw [closing, splits, List.append_assoc]
        rfl
      simpa using other

theorem exists_read (unended : ¬js ");" <:+: statement.body.text)
    (passed rest : JsString) :
    ∃ reading, createTable.read (passed, statement.text ++ rest) =
        some reading ∧
      group 2 reading = statement.name ∧
      group 5 reading = statement.body.text ∧
      reading.ended.2 = rest := by
  have onEnd (passed : JsString) :
      readPieces (fun _ => true) [one (· == 59)] (passed, 59 :: rest) =
        some ⟨[[59]], (59 :: passed, rest)⟩ :=
    readPieces_one rfl (readPieces_nil rfl)
  have onClose (passed : JsString) :
      readPieces (fun _ => true) [closeParen, one (· == 59)]
        (passed, 41 :: 59 :: rest) =
          some ⟨[[41], [59]], (59 :: 41 :: passed, rest)⟩ :=
    readPieces_one rfl (onEnd (41 :: passed))
  let nameEnd := statement.name.reverse ++ (statement.gap.text.reverse ++
    (opening.reverse ++ passed))
  have onBody := readPieces_lazyStar (fun _ _ => rfl)
    (fun start others splits filled =>
      statement.readPieces_end_eq_none unended splits filled)
    (onClose (statement.body.text.reverse ++
      (40 :: (statement.blank.text.reverse ++ nameEnd))))
  have onOpen := readPieces_openParen onBody
  have onBlank := readPieces_blank statement.blank rfl onOpen
  have onName := readPieces_plus_whole statement.named statement.wordUnits
    (statement.blank.head_openParen isAsciiWordUnit_of_isSpace rfl _) onBlank
  have nameStarts : (statement.name ++ (statement.blank.text ++
      40 :: (statement.body.text ++ 41 :: 59 :: rest))).head?.all
        (fun unit => !isSpace unit) = true := by
    obtain ⟨unit, units, isName⟩ := List.exists_cons_of_ne_nil statement.named
    have inWord := statement.wordUnits
    rw [isName] at inWord ⊢
    have here := inWord unit List.mem_cons_self
    cases blank : isSpace unit with
    | false =>
        simp [blank]
    | true =>
        rw [isAsciiWordUnit_of_isSpace blank] at here
        cases here
  have onGap := readPieces_gap statement.gap nameStarts onName
  have onOpening := readPieces_cons [] [] (ends_literal opening passed _)
    (List.forall_mem_nil _) onGap
  have shape : statement.text ++ rest = opening ++ (statement.gap.text ++
      (statement.name ++ (statement.blank.text ++
        40 :: (statement.body.text ++ 41 :: 59 :: rest)))) := by
    simp only [text, List.append_assoc, List.cons_append, List.nil_append]
  rw [shape]
  exact ⟨_, onOpening, rfl, rfl, rfl⟩

end TableStatement

/-- The statements of a script are read one after the other. -/
theorem readTables_script (platform : SchemaPlatform) {trail passed : JsString}
    {statements : List (JsString × TableStatement)}
    (plain : PlainScript trail passed statements) :
    (createTable.matchesFrom 0 passed (scriptText trail statements)).flatMap
        (fun found =>
          readTable platform (found.getD 2 []) (found.getD 5 [])) =
      statements.flatMap fun statement =>
        readTable platform statement.2.name statement.2.body.text := by
  induction statements generalizing passed with
  | nil =>
      have onTrail := Expression.matchesFrom_append _ plain
      rw [List.append_nil] at onTrail
      rw [scriptText, onTrail]
      rfl
  | cons item others ih =>
      obtain ⟨silent, unended, onward⟩ := plain
      obtain ⟨reading, read, isName, isBody, ended⟩ :=
        item.2.exists_read unended (item.1.reverse ++ passed)
          (scriptText trail others)
      have filled : item.2.text ≠ [] := List.cons_ne_nil _ _
      have here := Expression.matchesFrom_of_read _ filled read ended
      rw [group] at isName isBody
      change (createTable.matchesFrom 0 passed (item.1 ++ (item.2.text ++
        scriptText trail others))).flatMap _ = _
      rw [Expression.matchesFrom_append _ silent, here, List.flatMap_cons,
        isName, isBody, ih onward, List.flatMap_cons]

/-- The objects of a script are those of its statements. -/
theorem extractTables_script (platform : SchemaPlatform) {trail : JsString}
    {statements : List (JsString × TableStatement)}
    (plain : PlainScript trail [] statements) :
    extractTables platform (scriptText trail statements) =
      statements.flatMap fun statement =>
        readTable platform statement.2.name statement.2.body.text := by
  rw [extractTables, Expression.matchAll, readTables_script platform plain]

/-! ## Columns -/

section Plain

variable {platform : SchemaPlatform} {column : Column}

/-- The name of a column is taken off the definition. -/
theorem readEntry_named
    (named : ∀ unit ∈ column.name.text, isAsciiWordUnit unit = true)
    (unopened : opensTableConstraint column.text = false)
    (tableName : JsString) :
    readEntry platform tableName column.text =
      ([parseColumn platform tableName column.name.text
          column.definition.text],
        parseInlineConstraintObjects platform tableName column.name.text
          column.definition.text) := by
  have follows := edge_of_blank (column.gap.head_append column.definition.text)
  have isName : column.text.takeWhile isAsciiWordUnit = column.name.text := by
    rw [Column.text, List.takeWhile_append_of_pos named]
    cases isRest : column.gap.text ++ column.definition.text with
    | nil =>
        rw [List.takeWhile_nil, List.append_nil]
    | cons unit rest =>
        rw [isRest] at follows
        rw [List.takeWhile_cons_of_neg (by simpa using follows),
          List.append_nil]
  have filled : column.name.text.isEmpty = false := by
    rw [List.isEmpty_eq_false_iff]
    exact column.name.tight.ne_nil
  have isDefinition : trim (column.text.drop column.name.text.length) =
      column.definition.text := by
    have nothing : ∀ unit ∈ ([] : JsString), isSpace unit = true :=
      List.forall_mem_nil _
    have trimmed := trim_padded column.gap.blank column.definition.tight nothing
    rw [List.append_nil] at trimmed
    rw [Column.text, List.drop_left, trimmed]
  rw [readEntry, unopened, if_neg Bool.false_ne_true, isName]
  dsimp only
  rw [filled, if_neg Bool.false_ne_true, isDefinition]

theorem parseColumn_eq (uppercases : UppercasesLetters platform)
    (plain : PlainColumn platform column) (tableName : JsString) :
    parseColumn platform tableName column.name.text column.definition.text =
      column.declared platform tableName := by
  rw [parseColumn, extractDataType_eq uppercases plain.written,
    isNullable_eq plain.written, defaultText_eq plain.written,
    Column.declared]

theorem parseInlineConstraintObjects_eq (plain : PlainColumn platform column)
    (tableName : JsString) :
    parseInlineConstraintObjects platform tableName column.name.text
        column.definition.text =
      column.declaredConstraints platform tableName := by
  rw [parseInlineConstraintObjects, inlineConstraints_eq _ plain.written,
    Column.declaredConstraints]

theorem readEntry_column (uppercases : UppercasesLetters platform)
    (plain : PlainColumn platform column) (tableName : JsString) :
    readEntry platform tableName column.text =
      ([column.declared platform tableName],
        column.declaredConstraints platform tableName) := by
  rw [readEntry_named plain.named plain.unopened,
    parseColumn_eq uppercases plain, parseInlineConstraintObjects_eq plain]

end Plain

section Declared

variable {platform : SchemaPlatform} (uppercases : UppercasesLetters platform)

include uppercases

theorem readEntry_declared {entry : Entry}
    (plain : ∀ column ∈ entry.column?, PlainColumn platform column)
    (tableName : JsString) :
    readEntry platform tableName entry.text =
      entry.declared platform tableName := by
  cases entry with
  | column written =>
      exact readEntry_column uppercases (plain written rfl) tableName
  | other part =>
      rfl

theorem readTable_declared {statement : TableStatement}
    (plain : ∀ column ∈ statement.body.columns,
      PlainColumn platform column) :
    readTable platform statement.name statement.body.text =
      statement.declared platform := by
  rw [TableStatement.declared]
  cases isBody : statement.body with
  | entries first others =>
      have read : ∀ padded ∈ first :: others,
          readEntry platform statement.name padded.entry.text =
            padded.entry.declared platform statement.name := by
        intro padded member
        refine readEntry_declared uppercases (fun column isColumn => ?_) _
        apply plain
        rw [isBody]
        exact List.mem_filterMap.mpr ⟨padded, member, isColumn⟩
      rw [readTable_entries first others platform statement.named,
        List.map_congr_left read]
  | other text =>
      rfl

/-- A script whose columns are plainly written yields what it declares. -/
theorem extractTables_declared {trail : JsString}
    {statements : List (JsString × TableStatement)}
    (plainScript : PlainScript trail [] statements)
    (plainColumns : ∀ statement ∈ statements,
      ∀ column ∈ statement.2.body.columns, PlainColumn platform column) :
    extractTables platform (scriptText trail statements) =
      statements.flatMap fun statement => statement.2.declared platform := by
  rw [extractTables_script platform plainScript]
  exact List.flatMap_congr fun statement isStatement =>
    readTable_declared uppercases (plainColumns statement isStatement)

end Declared

/-! ## A plainly written script -/

private def lettersPlatform : SchemaPlatform where
  localeLe := codeUnitLe
  toLowerCase := lowerCase
  toUpperCase := fun text => text.map upperUnit

private def oneBlank : Gap :=
  ⟨⟨[32], List.all_eq_true.mp rfl⟩, by decide⟩

private def noBlank : Blank :=
  ⟨[], List.forall_mem_nil _⟩

private def integerType : ColumnType where
  word := js "int"
  others := []
  filled := by decide
  unspaced := by
    refine List.forall_mem_singleton.mpr fun unit member => ?_
    exact isSpace_of_letter
      (List.all_eq_true.mp (by decide : (js "int").all isCaselessLetter) unit
        member)
  balanced := by decide

/-- `ON DELETE CASCADE`. -/
private def cascade : ReferenceAction where
  event := .delete
  onWord := ⟨js "ON", by decide⟩
  gap := oneBlank
  eventWord := ⟨js "DELETE", by decide⟩
  effectGap := oneBlank
  effect := ⟨js "CASCADE", ⟨by decide, by decide⟩, by decide⟩

/-- `REFERENCES owner (id) ON DELETE CASCADE`. -/
private def ownerReference : Reference where
  word := ⟨js "REFERENCES", by decide⟩
  gap := oneBlank
  table := ⟨js "owner", ⟨by decide, by decide⟩, by decide⟩
  blank := oneBlank.toBlank
  lead := noBlank
  column := ⟨js "id", ⟨by decide, by decide⟩, by decide⟩
  trail := noBlank
  actions := [(oneBlank, cascade)]

private def ownerDefinition : ColumnDefinition where
  type := integerType
  clauses :=
    [(oneBlank, .default ⟨js "DEFAULT", by decide⟩ oneBlank
        ⟨js "(1, 'a)')", ⟨by decide, by decide⟩, by decide⟩),
      (oneBlank, .notNull ⟨js "NOT", by decide⟩ oneBlank
        ⟨js "NULL", by decide⟩),
      (oneBlank, .references ownerReference)]

private def ownerColumn : Column where
  name := ⟨js "owner_id", ⟨by decide, by decide⟩, by decide⟩
  gap := oneBlank
  definition := ownerDefinition

private def ownedTable : TableStatement where
  gap := oneBlank
  name := js "owned"
  named := by decide
  wordUnits := List.all_eq_true.mp (by decide)
  blank := oneBlank.toBlank
  body := .entries ⟨noBlank, .column ownerColumn, noBlank⟩ []

private theorem plainScript_owned :
    PlainScript [] [] [([], ownedTable)] := by
  exact ⟨rfl, by decide +kernel, rfl⟩

private theorem split_of_three {β : Type} {first second third item : β}
    {before after : List β}
    (splits : [first, second, third] = before ++ item :: after) :
    (before = [] ∧ item = first ∧ after = [second, third]) ∨
      (before = [first] ∧ item = second ∧ after = [third]) ∨
        before = [first, second] ∧ item = third ∧ after = [] := by
  simp only [List.cons_eq_append_iff, List.nil_eq_append_iff,
    List.cons.injEq] at splits
  rcases splits with ⟨rfl, rfl, rfl⟩ |
    ⟨_, rfl, ⟨rfl, rfl, rfl⟩ | ⟨_, rfl, ⟨rfl, rfl, rfl⟩ | ⟨_, rfl, _, none⟩⟩⟩
  · exact Or.inl ⟨rfl, rfl, rfl⟩
  · exact Or.inr (Or.inl ⟨rfl, rfl, rfl⟩)
  · exact Or.inr (Or.inr ⟨rfl, rfl, rfl⟩)
  · cases none

private theorem plainlyWritten_owner :
    PlainlyWritten lettersPlatform ownerDefinition where
  typeWords := by decide +kernel
  spacedCheck := by
    intro gap word blank expression after splits
    cases splits
  once := by
    intro kind _ _
    cases kind <;> decide +kernel
  nullability := by decide +kernel
  primaryKey := by decide +kernel
  unique := by decide +kernel
  default := by decide +kernel
  references := by decide +kernel
  check := by decide +kernel
  defaults := by
    intro before gap word wordGap expression after splits
    rcases split_of_three splits with
      ⟨rfl, here, rfl⟩ | ⟨_, other, _⟩ | ⟨_, other, _⟩
    · cases here
      exact ⟨by decide +kernel, List.all_eq_true.mp (by decide),
        by decide +kernel⟩
    · cases other
    · cases other
  referred := by
    intro before gap reference after splits
    rcases split_of_three splits with
      ⟨_, other, _⟩ | ⟨_, other, _⟩ | ⟨rfl, here, rfl⟩
    · cases other
    · cases other
    · cases here
      refine ⟨by decide +kernel, List.all_eq_true.mp (by decide),
        List.all_eq_true.mp (by decide), by decide, ?_, ?_⟩
      · intro before gap action after splits isFirst
        rcases List.cons_eq_append_iff.mp splits with
          ⟨rfl, here⟩ | ⟨before, rfl, none⟩
        · cases here
          exact ⟨by decide +kernel, rfl, List.all_eq_true.mp (by decide),
            List.forall_mem_nil _⟩
        · cases before <;> cases none
      · intro event
        cases event <;> decide +kernel
  checked := by
    intro before gap word blank expression after splits
    rcases split_of_three splits with
      ⟨_, other, _⟩ | ⟨_, other, _⟩ | ⟨_, other, _⟩
    · cases other
    · cases other
    · cases other

theorem extractTables_owned :
    scriptText [] [([], ownedTable)] =
        js "CREATE TABLE IF NOT EXISTS owned (owner_id int " ++
          js "DEFAULT (1, 'a)') NOT NULL REFERENCES owner (id) " ++
          js "ON DELETE CASCADE);" ∧
      extractTables lettersPlatform (scriptText [] [([], ownedTable)]) =
        [(([] : JsString), ownedTable)].flatMap fun statement =>
          statement.2.declared lettersPlatform := by
  refine ⟨by decide, extractTables_declared (fun _ _ => rfl)
    plainScript_owned ?_⟩
  intro statement isStatement column isColumn
  rw [List.mem_singleton.mp isStatement] at isColumn
  rw [List.mem_singleton.mp isColumn]
  exact ⟨List.all_eq_true.mp (by decide), by decide +kernel,
    plainlyWritten_owner⟩

/-! ## A script that is read otherwise -/

private def isNotNullTest : Part :=
  ⟨js "x IS NOT NULL", ⟨by decide, by decide⟩, by decide⟩

/-- `x int CHECK (x IS NOT NULL)`, which may be null as it is declared. -/
private def checkedColumn : Column where
  name := ⟨js "x", ⟨by decide, by decide⟩, by decide⟩
  gap := oneBlank
  definition := ⟨integerType, [(oneBlank, .check ⟨js "CHECK", by decide⟩
    oneBlank.toBlank ⟨isNotNullTest.text, by decide,
      isNotNullTest.balanced.inParens⟩)]⟩

private def checkedTable : TableStatement where
  gap := oneBlank
  name := js "checked"
  named := by decide
  wordUnits := List.all_eq_true.mp (by decide)
  blank := oneBlank.toBlank
  body := .entries ⟨noBlank, .column checkedColumn, noBlank⟩ []

theorem checkedColumn_not_declared :
    scriptText [] [([], checkedTable)] =
        js "CREATE TABLE IF NOT EXISTS checked (x int CHECK (x IS NOT NULL));" ∧
      extractTables lettersPlatform (scriptText [] [([], checkedTable)]) ≠
        [(([] : JsString), checkedTable)].flatMap fun statement =>
          statement.2.declared lettersPlatform := by
  refine ⟨by decide, fun same => ?_⟩
  have plain : PlainScript [] [] [([], checkedTable)] :=
    ⟨rfl, by decide +kernel, rfl⟩
  have table : readTable lettersPlatform checkedTable.name
      checkedTable.body.text = _ :=
    readTable_entries _ _ lettersPlatform checkedTable.named
  have entry : readEntry lettersPlatform checkedTable.name
      checkedColumn.text = _ :=
    readEntry_named (List.all_eq_true.mp (by decide)) (by decide +kernel) _
  rw [extractTables_script _ plain, List.flatMap_singleton,
    List.flatMap_singleton, table, List.map_singleton] at same
  have second := congrArg (fun objects : List SchemaObject =>
    objects[1]?.map SchemaObject.metadata) same
  change Option.map _ (tableObjects lettersPlatform checkedTable.name
    [readEntry lettersPlatform checkedTable.name checkedColumn.text])[1]? =
      _ at second
  rw [entry] at second
  have metadata := Option.some.inj second
  have nullability := (List.cons.inj (List.cons.inj metadata).2).1
  have nullable : isNullable checkedColumn.definition.text =
      checkedColumn.definition.nullable :=
    Json.boolean.inj (Prod.mk.inj nullability).2
  revert nullable
  decide +kernel

end BidayaxExecutive.Reconciliation.ColumnDefinitions
