import BidayaxExecutive.Reconciliation.StableText
import BidayaxExecutive.Runtime.Sha256
import BidayaxExecutive.Runtime.Utf8

/-!
# Schema objects and their comparison

An object of the canonical manifest and an object of the live inventory have
the same shape.  Two of them are compared through a normal form: names and
types lose their spellings, expressions their casts and parentheses, and of the
metadata only the properties that define an object of its type are kept.
-/

namespace BidayaxExecutive.Reconciliation

open BidayaxExecutive.Runtime JsString

inductive SchemaDefinitionObjectType where
  | extension
  | table
  | column
  | primaryKey
  | foreignKey
  | uniqueConstraint
  | checkConstraint
  | index
  | trigger
  | function
  | sequence
  | policy
  | comment
  | rowLevelSecurity
  deriving DecidableEq, Repr

def SchemaDefinitionObjectType.text : SchemaDefinitionObjectType → JsString
  | extension => js "extension"
  | table => js "table"
  | column => js "column"
  | primaryKey => js "primary_key"
  | foreignKey => js "foreign_key"
  | uniqueConstraint => js "unique_constraint"
  | checkConstraint => js "check_constraint"
  | index => js "index"
  | trigger => js "trigger"
  | function => js "function"
  | sequence => js "sequence"
  | policy => js "policy"
  | comment => js "comment"
  | rowLevelSecurity => js "row_level_security"

abbrev Metadata := List (JsString × Json)

/-- `CanonicalManifestObject` and `SchemaInventoryObject`. -/
structure SchemaObject where
  objectType : SchemaDefinitionObjectType
  schemaName : JsString
  objectName : JsString
  parentObject : Option JsString
  definitionHash : JsString
  metadata : Metadata

/-! ## Scalars -/

/-- `/^"(.*)"$/`; the point matches no line terminator. -/
def stripWrappingQuotes (value : JsString) : JsString :=
  match value with
  | 34 :: rest =>
      if rest.getLast? = some 34 ∧ rest.dropLast.all fun unit =>
          unit != 10 && unit != 13 && unit != 8232 && unit != 8233 then
        rest.dropLast
      else value
  | _ => value

section Platform

variable (platform : SchemaPlatform)

def normalizeSchemaIdentifier (value : JsString) : JsString :=
  platform.toLowerCase <| stripWrappingQuotes <|
    (dropWord? (js "public.") (trim value)).getD (trim value)

/-- What is done with a text; anything else is `null`. -/
def normalizeText (normalize : JsString → Json) : Option Json → Json
  | some (.string text) => normalize text
  | _ => .null

/-- The words for `true` and the words for `false`. -/
def normalizeFlag (yes no : List JsString) : Option Json → Json
  | some (.boolean value) => .boolean value
  | value =>
      normalizeText (fun text =>
        let normalized := platform.toLowerCase (collapseWhitespace text)
        if normalized ∈ yes then .boolean true
        else if normalized ∈ no then .boolean false
        else .null) value

def normalizeNullable : Option Json → Json :=
  normalizeFlag platform [js "yes", js "true"] [js "no", js "false"]

def normalizeBoolean : Option Json → Json :=
  normalizeFlag platform [js "true", js "t", js "yes", js "always"]
    [js "false", js "f", js "no", js "never"]

def typeName (normalized : JsString) : JsString :=
  if normalized = js "timestamp with time zone" then js "timestamptz"
  else if normalized = js "timestamp without time zone" then js "timestamp"
  else if normalized = js "character varying" then js "varchar"
  else if normalized = js "bool" then js "boolean"
  else if normalized = js "int4" then js "integer"
  else if normalized = js "int8" then js "bigint"
  else normalized

def normalizeType : Option Json → Json :=
  normalizeText fun text =>
    .string (typeName (platform.toLowerCase (collapseWhitespace text)))

def normalizeExpression : Option Json → Json :=
  normalizeText fun text => .string (normalizeSchemaExpression platform text)

def normalizeName : Option Json → Json :=
  normalizeText fun text => .string (normalizeSchemaIdentifier platform text)

def lowerText : Option Json → Json :=
  normalizeText fun text =>
    .string (platform.toLowerCase (collapseWhitespace text))

def upperText : Option Json → Json :=
  normalizeText fun text =>
    .string (platform.toUpperCase (collapseWhitespace text))

def keptText : Option Json → Json :=
  normalizeText .string

/-- `value ?? null`. -/
def orNull (value : Option Json) : Json :=
  value.getD .null

/-- The texts of an array; anything else has none. -/
def arrayTexts : Option Json → List JsString
  | some (.array elements) => elements.filterMap fun element =>
      match element with
      | .string text => some text
      | _ => none
  | _ => []

/-- `normalizeStringArray(values, { identifiers: true })`. -/
def normalizeIdentifiers (values : Option Json) : Json :=
  .array <| (arrayTexts values).map fun text =>
    .string (normalizeSchemaIdentifier platform text)

/-- `normalizeStringArray(values, { sortValues: true })`. -/
def normalizeSortedValues (values : Option Json) : Json :=
  .array <| (((arrayTexts values).map collapseWhitespace).insertionSort
    fun left right => platform.localeLe left right = true).map .string

/-! ## Objects -/

/-- The last branch of the source, a sorted copy, is for no type there is. -/
def normalizeMetadata (objectType : SchemaDefinitionObjectType)
    (metadata : Metadata) : Metadata :=
  let property := fun name => metadata.lookup (js name)
  match objectType with
  | .table =>
      [(js "columns", normalizeIdentifiers platform (property "columns"))]
  | .column =>
      [(js "dataType", normalizeType platform (property "dataType")),
        (js "defaultHash", keptText (property "defaultHash")),
        (js "hasDefault", normalizeBoolean platform (property "hasDefault")),
        (js "generationExpression",
          normalizeExpression platform (property "generationExpression")),
        (js "isGenerated", normalizeBoolean platform (property "isGenerated")),
        (js "isNullable", normalizeNullable platform (property "isNullable"))]
  | .primaryKey =>
      [(js "columns", normalizeIdentifiers platform (property "columns"))]
  | .uniqueConstraint =>
      [(js "columns", normalizeIdentifiers platform (property "columns"))]
  | .foreignKey =>
      [(js "columns", normalizeIdentifiers platform (property "columns")),
        (js "referencedColumns",
          normalizeIdentifiers platform (property "referencedColumns")),
        (js "referencedTable",
          normalizeName platform (property "referencedTable")),
        (js "onDelete", upperText platform (property "onDelete")),
        (js "onUpdate", upperText platform (property "onUpdate"))]
  | .checkConstraint =>
      [(js "expression", normalizeExpression platform (property "expression"))]
  | .index =>
      [(js "columns", normalizeIdentifiers platform (property "columns")),
        (js "method", lowerText platform (property "method")),
        (js "predicate", normalizeExpression platform (property "predicate")),
        (js "unique", normalizeBoolean platform (property "unique"))]
  | .trigger =>
      [(js "actionTiming", upperText platform (property "actionTiming")),
        (js "enabled", normalizeBoolean platform (property "enabled")),
        (js "eventManipulation",
          normalizeSortedValues platform (property "eventManipulation")),
        (js "functionName", normalizeName platform (property "functionName")),
        (js "level", upperText platform (property "level"))]
  | .function =>
      [(js "arguments",
          match property "arguments" with
          | some (.string text) => .string (collapseWhitespace text)
          | _ => .string []),
        (js "bodyHash", keptText (property "bodyHash")),
        (js "language", lowerText platform (property "language")),
        (js "leakproof", normalizeBoolean platform (property "leakproof")),
        (js "returnType", normalizeType platform (property "returnType")),
        (js "securityDefiner",
          normalizeBoolean platform (property "securityDefiner")),
        (js "strict", normalizeBoolean platform (property "strict")),
        (js "volatility", lowerText platform (property "volatility"))]
  | .sequence =>
      [(js "dataType", normalizeType platform (property "dataType")),
        (js "increment", orNull (property "increment")),
        (js "maximumValue", orNull (property "maximumValue")),
        (js "minimumValue", orNull (property "minimumValue")),
        (js "startValue", orNull (property "startValue"))]
  | .policy =>
      [(js "command", upperText platform (property "command")),
        (js "permissive", normalizeBoolean platform (property "permissive")),
        (js "qualifierHash", keptText (property "qualifierHash")),
        (js "qualifierPresent",
          normalizeBoolean platform (property "qualifierPresent")),
        (js "rolesHash", keptText (property "rolesHash")),
        (js "withCheckHash", keptText (property "withCheckHash")),
        (js "withCheckPresent",
          normalizeBoolean platform (property "withCheckPresent"))]
  | .extension =>
      [(js "name", normalizeName platform (property "name"))]
  | .comment =>
      [(js "commentHash", keptText (property "commentHash")),
        (js "targetType", lowerText platform (property "targetType"))]
  | .rowLevelSecurity =>
      [(js "forceRowSecurity",
          normalizeBoolean platform (property "forceRowSecurity")),
        (js "rowSecurity",
          normalizeBoolean platform (property "rowSecurity"))]

def normalizeSchemaObject (object : SchemaObject) : Json :=
  .object [
    (js "objectType", .string object.objectType.text),
    (js "schemaName",
      .string (normalizeSchemaIdentifier platform object.schemaName)),
    (js "objectName",
      .string (normalizeSchemaIdentifier platform object.objectName)),
    (js "parentObject",
      match object.parentObject with
      | some (unit :: rest) =>
          .string (normalizeSchemaIdentifier platform (unit :: rest))
      | _ => .null),
    (js "metadata",
      .object (normalizeMetadata platform object.objectType object.metadata))]

def buildSchemaDefinitionHash (object : SchemaObject) : JsString :=
  sha256Hex (utf8 (stableJson platform (normalizeSchemaObject platform object)))

/-! ## Comparison -/

def hasBooleanValue : Option Json → Bool
  | some (.boolean _) => true
  | _ => false

def hasStringValue : Option Json → Bool
  | some (.string text) => !isBlank text
  | _ => false

def hasArrayValues : Option Json → Bool
  | some (.array elements) => !elements.isEmpty && elements.all fun element =>
      match element with
      | .string text => !text.isEmpty
      | _ => false
  | _ => false

/-- `value !== null`. -/
def isNotNull : Option Json → Bool
  | some .null => false
  | _ => true

def hasDefinitionEvidence (object : SchemaObject) : Bool :=
  let metadata := normalizeMetadata platform object.objectType object.metadata
  let property := fun name => metadata.lookup (js name)
  match object.objectType with
  | .table => hasArrayValues (property "columns")
  | .column =>
      hasStringValue (property "dataType") &&
        hasBooleanValue (property "isNullable")
  | .primaryKey => hasArrayValues (property "columns")
  | .uniqueConstraint => hasArrayValues (property "columns")
  | .foreignKey =>
      hasArrayValues (property "columns") &&
        hasStringValue (property "referencedTable") &&
        hasArrayValues (property "referencedColumns")
  | .checkConstraint => hasStringValue (property "expression")
  | .index =>
      hasArrayValues (property "columns") &&
        hasStringValue (property "method") &&
        hasBooleanValue (property "unique")
  | .trigger =>
      hasStringValue (property "actionTiming") &&
        hasBooleanValue (property "enabled") &&
        hasArrayValues (property "eventManipulation") &&
        hasStringValue (property "functionName") &&
        hasStringValue (property "level")
  | .function =>
      hasStringValue (property "bodyHash") &&
        hasStringValue (property "language") &&
        hasStringValue (property "returnType") &&
        hasBooleanValue (property "securityDefiner") &&
        hasBooleanValue (property "strict") &&
        hasBooleanValue (property "leakproof") &&
        hasStringValue (property "volatility")
  | .sequence =>
      hasStringValue (property "dataType") &&
        isNotNull (property "increment") &&
        isNotNull (property "maximumValue") &&
        isNotNull (property "minimumValue") &&
        isNotNull (property "startValue")
  | .policy =>
      hasStringValue (property "command") &&
        hasBooleanValue (property "permissive") &&
        hasStringValue (property "qualifierHash") &&
        hasStringValue (property "rolesHash") &&
        hasStringValue (property "withCheckHash")
  | .extension => hasStringValue (property "name")
  | .comment =>
      hasStringValue (property "targetType") &&
        hasStringValue (property "commentHash")
  | .rowLevelSecurity =>
      hasBooleanValue (property "rowSecurity") &&
        hasBooleanValue (property "forceRowSecurity")

def makeKey (object : SchemaObject) : JsString :=
  [58].intercalate [object.objectType.text, object.schemaName,
    object.parentObject.getD [], object.objectName]

inductive ObjectComparisonResult where
  | exact
  | mismatched
  | unknown
  deriving DecidableEq, Repr

def compareObjects (canonical live : SchemaObject) : ObjectComparisonResult :=
  if makeKey canonical ≠ makeKey live then .mismatched
  else if !hasDefinitionEvidence platform canonical ||
      !hasDefinitionEvidence platform live then .unknown
  else if
      stableJson platform (normalizeSchemaObject platform canonical) =
        stableJson platform (normalizeSchemaObject platform live) ∧
      buildSchemaDefinitionHash platform canonical =
        buildSchemaDefinitionHash platform live then .exact
  else .mismatched

/-- Equal keys, evidence on both sides and the same text: the hashes add
nothing. -/
theorem compareObjects_eq_exact (canonical live : SchemaObject) :
    compareObjects platform canonical live = .exact ↔
      makeKey canonical = makeKey live ∧
        hasDefinitionEvidence platform canonical = true ∧
        hasDefinitionEvidence platform live = true ∧
        stableJson platform (normalizeSchemaObject platform canonical) =
          stableJson platform (normalizeSchemaObject platform live) := by
  have sameHash :
      stableJson platform (normalizeSchemaObject platform canonical) =
        stableJson platform (normalizeSchemaObject platform live) →
      buildSchemaDefinitionHash platform canonical =
        buildSchemaDefinitionHash platform live := by
    intro sameText
    rw [buildSchemaDefinitionHash, buildSchemaDefinitionHash, sameText]
  rw [compareObjects]
  by_cases sameKey : makeKey canonical = makeKey live
  · rw [if_neg (not_not_intro sameKey)]
    cases hasDefinitionEvidence platform canonical with
    | false => simp
    | true =>
        cases hasDefinitionEvidence platform live with
        | false => simp
        | true => simpa [sameKey] using sameHash
  · simp [sameKey]

theorem compareObjects_eq_unknown (canonical live : SchemaObject) :
    compareObjects platform canonical live = .unknown ↔
      makeKey canonical = makeKey live ∧
        (hasDefinitionEvidence platform canonical = false ∨
          hasDefinitionEvidence platform live = false) := by
  rw [compareObjects]
  by_cases sameKey : makeKey canonical = makeKey live
  · rw [if_neg (not_not_intro sameKey)]
    cases hasDefinitionEvidence platform canonical with
    | false => simp [sameKey]
    | true =>
        cases hasDefinitionEvidence platform live with
        | false => simp [sameKey]
        | true =>
            simp only [Bool.not_true, Bool.or_self, Bool.false_eq_true,
              if_false]
            split_ifs <;> simp
  · simp [sameKey]

end Platform

end BidayaxExecutive.Reconciliation
