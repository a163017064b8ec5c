import BidayaxExecutive.Library.Captures
import BidayaxExecutive.Reconciliation.SchemaObjects
import BidayaxExecutive.Runtime.RegularExpressions

/-!
# Tables of a migration

The parser of the migrations finds the statements that create tables, splits
their bodies at the outer commas, and reads each attribute of a column by a
regular expression of its own over the whole definition.
-/

namespace BidayaxExecutive.Reconciliation.MigrationParser

open BidayaxExecutive.Runtime JsString
open BidayaxExecutive.Library.Backtracking
open BidayaxExecutive.Library.Backtracking.Regex
open BidayaxExecutive.Library.Captures

/-! ## Names and lists -/

/-- `/^"(.*)"$/`, behind the white space. -/
def stripWrappingQuotes (value : JsString) : JsString :=
  Reconciliation.stripWrappingQuotes (trim value)

def normalizeName (platform : SchemaPlatform) (value : JsString) : JsString :=
  normalizeSchemaIdentifier platform <| stripWrappingQuotes <|
    (dropWord? (js "public.") (trim value)).getD (trim value)

structure CsvState where
  depth : Nat
  inSingleQuote : Bool
  inDoubleQuote : Bool

namespace CsvState

def outside (depth : Nat) : CsvState :=
  ⟨depth, false, false⟩

def isQuoted (state : CsvState) : Bool :=
  state.inSingleQuote || state.inDoubleQuote

def step (state : CsvState) (character : UInt16) : CsvState :=
  if character = 39 ∧ state.inDoubleQuote = false then
    { state with inSingleQuote := !state.inSingleQuote }
  else if character = 34 ∧ state.inSingleQuote = false then
    { state with inDoubleQuote := !state.inDoubleQuote }
  else if state.isQuoted then state
  else if character = 40 then { state with depth := state.depth + 1 }
  else if character = 41 then { state with depth := state.depth - 1 }
  else state

def splitsAt (state : CsvState) (character : UInt16) : Bool :=
  !state.isQuoted && character == 44 && state.depth == 0

end CsvState

def keptPart (current : JsString) : List JsString :=
  if (trim current).isEmpty then [] else [trim current]

def splitTopLevelCsvFrom (state : CsvState) (current : JsString) :
    JsString → List JsString
  | [] => keptPart current
  | character :: rest =>
      if state.splitsAt character then
        keptPart current ++ splitTopLevelCsvFrom state [] rest
      else
        splitTopLevelCsvFrom (state.step character) (current ++ [character])
          rest

def splitTopLevelCsv (value : JsString) : List JsString :=
  splitTopLevelCsvFrom (.outside 0) [] value

/-- `/^[A-Za-z_][A-Za-z0-9_]*$/`. -/
def isPlainIdentifier (text : JsString) : Bool :=
  text.head?.any (fun unit => isAsciiWordUnit unit && !isDigit unit) &&
    text.all isAsciiWordUnit

def normalizeListEntry (platform : SchemaPlatform) (value : JsString) :
    JsString :=
  let trimmed := stripWrappingQuotes (trim value)
  if isPlainIdentifier trimmed then normalizeName platform trimmed
  else trim (collapseRuns isSpace 32 false trimmed)

def parseColumnList (platform : SchemaPlatform) (fragment : JsString) :
    List JsString :=
  (splitTopLevelCsv fragment).map (normalizeListEntry platform)

/-! ## Objects -/

def normalizeWhitespace (value : JsString) : JsString :=
  collapseWhitespace value

def definitionHash (value : JsString) : JsString :=
  sha256Hex (utf8 (normalizeWhitespace value))

section Platform

variable (platform : SchemaPlatform)

def createObject (objectType : SchemaDefinitionObjectType)
    (schemaName objectName : JsString) (metadata : Metadata)
    (parentObject : Option JsString) : SchemaObject :=
  let object : SchemaObject :=
    ⟨objectType, schemaName, objectName, parentObject, [], metadata⟩
  { object with definitionHash := buildSchemaDefinitionHash platform object }

inductive ConstraintMetadata where
  | primaryKey (columns : List JsString)
  | uniqueConstraint (columns : List JsString)
  | foreignKey (columns : List JsString) (referencedTable : JsString)
      (referencedColumns : List JsString)
      (onDelete onUpdate : Option JsString)
  | checkConstraint (expression : JsString)
  deriving DecidableEq

def textArray (texts : List JsString) : Json :=
  .array (texts.map .string)

/-- `value ?? null`. -/
def textOrNull (value : Option JsString) : Json :=
  value.elim .null .string

namespace ConstraintMetadata

def objectType : ConstraintMetadata → SchemaDefinitionObjectType
  | primaryKey _ => .primaryKey
  | uniqueConstraint _ => .uniqueConstraint
  | foreignKey .. => .foreignKey
  | checkConstraint _ => .checkConstraint

def metadata : ConstraintMetadata → Metadata
  | primaryKey columns => [(js "columns", textArray columns)]
  | uniqueConstraint columns => [(js "columns", textArray columns)]
  | foreignKey columns referencedTable referencedColumns onDelete onUpdate =>
      [(js "columns", textArray columns),
        (js "referencedTable", .string referencedTable),
        (js "referencedColumns", textArray referencedColumns),
        (js "onDelete", textOrNull onDelete),
        (js "onUpdate", textOrNull onUpdate)]
  | checkConstraint expression => [(js "expression", .string expression)]

end ConstraintMetadata

def commaJoined (texts : List JsString) : JsString :=
  [44].intercalate texts

def buildConstraintObjectName (tableName : JsString) :
    ConstraintMetadata → JsString
  | .primaryKey _ => normalizeName platform tableName ++ js "#primary_key"
  | .uniqueConstraint columns =>
      normalizeName platform tableName ++ js "#unique#" ++ commaJoined columns
  | .foreignKey columns referencedTable referencedColumns _ _ =>
      normalizeName platform tableName ++ js "#foreign_key#" ++
        commaJoined columns ++ js "#" ++ referencedTable ++ js "#" ++
        commaJoined referencedColumns
  | .checkConstraint expression =>
      normalizeName platform tableName ++ js "#check#" ++
        (definitionHash (normalizeSchemaExpression platform expression)).take 12

/-- `createObject` for a constraint, with the name that is built for it. -/
def createConstraint (tableName : JsString) (constraint : ConstraintMetadata) :
    SchemaObject :=
  createObject platform constraint.objectType (js "public")
    (buildConstraintObjectName platform tableName constraint)
    constraint.metadata (some tableName)

end Platform

/-! ## Expressions -/

/-- A point, without the flag `s`. -/
def isPoint (unit : UInt16) : Bool :=
  unit != 10 && unit != 13 && unit != 8232 && unit != 8233

/-- `[A-Z ]` with the flag `i`. -/
def isActionUnit (unit : UInt16) : Bool :=
  (97 ≤ lowerUnit unit && lowerUnit unit ≤ 122) || unit == 32

/-- `[^\s(]`. -/
def isTableUnit (unit : UInt16) : Bool :=
  !isSpace unit && unit != 40

/-- `[\s\S]`. -/
def isAnyUnit (_ : UInt16) : Bool :=
  true

def openParen : Regex UInt16 :=
  one (· == 40)

def closeParen : Regex UInt16 :=
  one (· == 41)

/-- A row of pieces with nothing to lie ahead. -/
def row (pieces : List (Regex UInt16)) : Expression UInt16 :=
  ⟨pieces, fun _ => true⟩

/-- What the piece at a position of the row consumes. -/
def group (position : Nat) (reading : Reading UInt16) : JsString :=
  reading.words.getD position []

/-- A match at the start of a text. -/
def readStart (pieces : List (Regex UInt16)) (text : JsString) :
    Option (Reading UInt16) :=
  (row pieces).read ([], text)

/-- `NOT\s+NULL`. -/
def notNull : Regex UInt16 :=
  sequence [caseless (js "not"), someSpaces, caseless (js "null")]

/-- `PRIMARY\s+KEY`. -/
def primaryKeyWords : Regex UInt16 :=
  sequence [caseless (js "primary"), someSpaces, caseless (js "key")]

/-- `/\bUNIQUE\b/i`. -/
def uniqueWord : Regex UInt16 :=
  seq (edge isAsciiWordUnit)
    (seq (caseless (js "unique")) (edge isAsciiWordUnit))

/-- `NOT\s+NULL|NULL|CHECK|CONSTRAINT|REFERENCES|UNIQUE|...`. -/
def clauseAheadWords : Regex UInt16 :=
  choice notNull [caseless (js "null"), caseless (js "check"),
    caseless (js "constraint"), caseless (js "references"),
    caseless (js "unique"), primaryKeyWords, caseless (js "generated")]

/-- `\s+(?:...)\b`. -/
def clauseAhead : Regex UInt16 :=
  seq someSpaces (seq clauseAheadWords (edge isAsciiWordUnit))

/-- The words of another clause, or the end of the text. -/
def atDefaultEnd (place : Place UInt16) : Bool :=
  !(clauseAhead.ends place).isEmpty || place.2.isEmpty

/-- `/\bDEFAULT\s+(.+?)(?=...)/i`. -/
def defaultClause : Expression UInt16 :=
  ⟨[edge isAsciiWordUnit, caseless (js "default"), someSpaces,
    seq (one isPoint) (star false (one isPoint))], atDefaultEnd⟩

/-- `/REFERENCES\s+([^\s(]+)\s*\((.+)\)/i`. -/
def referencesClause : Expression UInt16 :=
  row [caseless (js "references"), someSpaces, plus (one isTableUnit), spaces,
    openParen, plus (one isPoint), closeParen]

/-- `/ON DELETE\s+([A-Z ]+)/i` and the same for an update. -/
def actionClause (words : JsString) : Expression UInt16 :=
  row [caseless words, someSpaces, plus (one isActionUnit)]

/-- `/CHECK\s*\(([\s\S]+)\)/i`. -/
def checkClause : Expression UInt16 :=
  row [caseless (js "check"), spaces, openParen, plus (one isAnyUnit),
    closeParen]

/-- `/GENERATED\s+ALWAYS\s+AS/i`. -/
def generatedWords : List (Regex UInt16) :=
  [caseless (js "generated"), someSpaces, caseless (js "always"), someSpaces,
    caseless (js "as")]

/-- `/GENERATED\s+ALWAYS\s+AS\s*\((.+)\)\s+STORED/i`. -/
def generationClause : Expression UInt16 :=
  row (generatedWords ++ [spaces, openParen, plus (one isPoint), closeParen,
    someSpaces, caseless (js "stored")])

/-! ## Columns -/

/-- `text.split(/\s+/)`; `inRun` passes over the rest of a run of blanks. -/
def splitSpacesFrom (current : JsString) (inRun : Bool) :
    JsString → List JsString
  | [] => [current]
  | unit :: rest =>
      if isSpace unit then
        if inRun then splitSpacesFrom current true rest
        else current :: splitSpacesFrom [] true rest
      else splitSpacesFrom (current ++ [unit]) false rest

def splitSpaces (text : JsString) : List JsString :=
  splitSpacesFrom [] false text

def clauseWords : List JsString :=
  [js "DEFAULT", js "NOT", js "NULL", js "CHECK", js "CONSTRAINT",
    js "REFERENCES", js "UNIQUE", js "PRIMARY", js "GENERATED"]

section Platform

variable (platform : SchemaPlatform)

def extractDataType (fragment : JsString) : JsString :=
  [32].intercalate <| (splitSpaces (trim fragment)).takeWhile fun token =>
    !clauseWords.contains (platform.toUpperCase token)

/-- `fragment.match(expression)?.[1]?.trim() ?? null`. -/
def referenceAction (words fragment : JsString) : Option JsString :=
  ((actionClause words).exec fragment).map fun found => trim (group 2 found)

def inlinePrimaryKey (columnName fragment : JsString) :
    Option ConstraintMetadata :=
  if primaryKeyWords.found fragment then
    some (.primaryKey [normalizeName platform columnName])
  else none

def inlineUnique (columnName fragment : JsString) :
    Option ConstraintMetadata :=
  if uniqueWord.found fragment then
    some (.uniqueConstraint [normalizeName platform columnName])
  else none

def inlineForeignKey (columnName fragment : JsString) :
    Option ConstraintMetadata :=
  (referencesClause.exec fragment).map fun foreignKeyMatch =>
    .foreignKey [normalizeName platform columnName]
      (normalizeName platform (group 2 foreignKeyMatch))
      (parseColumnList platform (group 5 foreignKeyMatch))
      (referenceAction (js "on delete") fragment)
      (referenceAction (js "on update") fragment)

def inlineCheck (fragment : JsString) : Option ConstraintMetadata :=
  (checkClause.exec fragment).map fun checkMatch =>
    .checkConstraint (group 3 checkMatch)

def inlineConstraints (columnName fragment : JsString) :
    List ConstraintMetadata :=
  (inlinePrimaryKey platform columnName fragment).toList ++
    (inlineUnique platform columnName fragment).toList ++
    (inlineForeignKey platform columnName fragment).toList ++
    (inlineCheck fragment).toList

def parseInlineConstraintObjects (tableName columnName fragment : JsString) :
    List SchemaObject :=
  (inlineConstraints platform columnName fragment).map
    (createConstraint platform tableName)

def isNullable (definition : JsString) : Bool :=
  !(either notNull primaryKeyWords).found definition

/-- The text of the default, if one is found. -/
def defaultText (definition : JsString) : Option JsString :=
  (defaultClause.exec definition).map (group 3)

/-- `definitionHash(normalizeSchemaExpression(text ?? null) ?? "")`. -/
def defaultHash (text : Option JsString) : JsString :=
  definitionHash (text.elim [] (normalizeSchemaExpression platform))

def columnMetadata (dataType : JsString) (nullable : Bool)
    (default : Option JsString) (generated : Bool)
    (generationExpression : Option JsString) : Metadata :=
  [(js "dataType", .string dataType),
    (js "isNullable", .boolean nullable),
    (js "defaultHash", .string (defaultHash platform default)),
    (js "hasDefault", .boolean default.isSome),
    (js "isGenerated", .boolean generated),
    (js "generationExpression", textOrNull generationExpression)]

def createColumn (tableName columnName : JsString) (metadata : Metadata) :
    SchemaObject :=
  createObject platform .column (js "public")
    (normalizeName platform columnName) metadata (some tableName)

def isGenerated (definition : JsString) : Bool :=
  (sequence generatedWords).found definition

def generationText (definition : JsString) : Option JsString :=
  (generationClause.exec definition).map (group 7)

def parseColumn (tableName columnName definition : JsString) : SchemaObject :=
  createColumn platform tableName columnName <|
    columnMetadata platform (extractDataType platform definition)
      (isNullable definition) (defaultText definition) (isGenerated definition)
      (generationText definition)

end Platform

/-! ## Constraints of a table -/

/-- `\((.+)\)` behind the words of a constraint. -/
def listClause (words : JsString) : Expression UInt16 :=
  row [caseless words, spaces, openParen, plus (one isPoint), closeParen]

/-- `/FOREIGN KEY\s*\((.+)\)\s+REFERENCES\s+([^\s(]+)\s*\((.+)\)/i`. -/
def foreignKeyClause : Expression UInt16 :=
  row [caseless (js "foreign key"), spaces, openParen, plus (one isPoint),
    closeParen, someSpaces, caseless (js "references"), someSpaces,
    plus (one isTableUnit), spaces, openParen, plus (one isPoint), closeParen]

/-- `/^CHECK\s*\(([\s\S]+)\)$/i`, from the start of the text. -/
def wholeCheck : Expression UInt16 :=
  ⟨checkClause.pieces, fun place => place.2.isEmpty⟩

/-- What is left of a text behind a match at its start. -/
def withoutStart (pieces : List (Regex UInt16)) (text : JsString) : JsString :=
  (readStart pieces text).elim text fun found => found.ended.2

section Platform

variable (platform : SchemaPlatform)

def tableColumns (words entry : JsString) : List JsString :=
  parseColumnList platform <|
    ((listClause words).exec entry).elim [] (group 3)

def tableConstraint (entry : JsString) : Option ConstraintMetadata :=
  if (readStart [primaryKeyWords] entry).isSome then
    some (.primaryKey (tableColumns platform (js "primary key") entry))
  else if
      (readStart [caseless (js "unique"), edge isAsciiWordUnit] entry).isSome
      then
    some (.uniqueConstraint (tableColumns platform (js "unique") entry))
  else if
      (readStart [caseless (js "foreign"), someSpaces, caseless (js "key")]
        entry).isSome then
    (foreignKeyClause.exec entry).map fun found =>
      .foreignKey (parseColumnList platform (group 3 found))
        (normalizeName platform (group 8 found))
        (parseColumnList platform (group 11 found))
        (referenceAction (js "on delete") entry)
        (referenceAction (js "on update") entry)
  else if
      (readStart [caseless (js "check"), spaces, openParen] entry).isSome then
    some <| .checkConstraint <|
      (wholeCheck.read ([], entry)).elim
        (withoutStart [caseless (js "check"), spaces] entry) (group 3)
  else none

def parseTableConstraintObject (tableName entry : JsString) :
    Option SchemaObject :=
  (tableConstraint platform (trim entry)).map
    (createConstraint platform tableName)

/-! ## Tables -/

/-- `/^(PRIMARY|FOREIGN|UNIQUE|CHECK|CONSTRAINT)\b/i`. -/
def opensTableConstraint (entry : JsString) : Bool :=
  (readStart [choice (caseless (js "primary")) [caseless (js "foreign"),
      caseless (js "unique"), caseless (js "check"),
      caseless (js "constraint")],
    edge isAsciiWordUnit] entry).isSome

/-- `/^CONSTRAINT\s+[A-Za-z0-9_]+\s+/i`. -/
def constraintName : List (Regex UInt16) :=
  [caseless (js "constraint"), someSpaces, plus (one isAsciiWordUnit),
    someSpaces]

/-- The columns and the constraints that an entry adds. -/
def readEntry (tableName entry : JsString) :
    List SchemaObject × List SchemaObject :=
  if opensTableConstraint entry then
    ([], (parseTableConstraintObject platform tableName
      (withoutStart constraintName entry)).toList)
  else
    let columnName := entry.takeWhile isAsciiWordUnit
    if columnName.isEmpty then ([], [])
    else
      let definition := trim (entry.drop columnName.length)
      ([parseColumn platform tableName columnName definition],
        parseInlineConstraintObjects platform tableName columnName definition)

def readTable (tableName body : JsString) : List SchemaObject :=
  if tableName.isEmpty || body.isEmpty then []
  else
    let read := (splitTopLevelCsv body).map (readEntry platform tableName)
    let columnObjects := read.flatMap Prod.fst
    let constraintObjects := read.flatMap Prod.snd
    let tableObject := createObject platform .table (js "public")
      (normalizeName platform tableName)
      [(js "columns", textArray (columnObjects.map (·.objectName)))] none
    tableObject :: (columnObjects ++ constraintObjects)

/-- `/CREATE TABLE IF NOT
EXISTS\s+([a-zA-Z0-9_]+)\s*\(([\s\S]*?)\);/g`. -/
def createTable : Expression UInt16 :=
  row [literal (js "CREATE TABLE IF NOT EXISTS"), someSpaces,
    plus (one isAsciiWordUnit), spaces, openParen,
    star false (one isAnyUnit), closeParen, one (· == 59)]

def extractTables (sql : JsString) : List SchemaObject :=
  (createTable.matchAll sql).flatMap fun found =>
    readTable platform (found.getD 2 []) (found.getD 5 [])

end Platform

end BidayaxExecutive.Reconciliation.MigrationParser
