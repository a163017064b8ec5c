import BidayaxExecutive.Reconciliation.ColumnDefinitions

/-!
# What the parser reads of a column

A definition is plainly written when the words of a clause stand in that clause
alone and nothing behind a clause reads on into it.  Each attribute of such a
definition is read as it is declared.
-/

namespace BidayaxExecutive.Reconciliation.ColumnDefinitions

open BidayaxExecutive.Runtime JsString
open BidayaxExecutive.Library.Backtracking
open BidayaxExecutive.Library.Backtracking.Regex
open BidayaxExecutive.Library.Captures
open BidayaxExecutive.Reconciliation.MigrationParser

/-! ## What is declared -/

/-- The first action for the event. -/
def Reference.effectOf (reference : Reference) (event : ReferenceEvent) :
    Option JsString :=
  reference.actions.findSome? fun action =>
    if action.2.event = event then some action.2.effect.text else none

def Clause.constraint (platform : SchemaPlatform) (columnName : JsString)
    (clause : Clause) : Option ConstraintMetadata :=
  let columns := [MigrationParser.normalizeName platform columnName]
  match clause with
  | primaryKey .. => some (.primaryKey columns)
  | unique _ => some (.uniqueConstraint columns)
  | references reference =>
      some <| .foreignKey columns
        (MigrationParser.normalizeName platform reference.table.text)
        [normalizeListEntry platform reference.column.text]
        (reference.effectOf .delete) (reference.effectOf .update)
  | check _ _ expression => some (.checkConstraint expression.text)
  | _ => none

def Clause.defaultExpression : Clause → Option JsString
  | default _ _ expression => some expression.text
  | _ => none

namespace ColumnDefinition

variable (definition : ColumnDefinition)

def declares (kind : ClauseKind) : Prop :=
  ∃ clause ∈ definition.clauses, clause.2.kind = kind

instance (kind : ClauseKind) : Decidable (definition.declares kind) :=
  inferInstanceAs (Decidable (∃ clause ∈ definition.clauses,
    clause.2.kind = kind))

def typeName : JsString :=
  [32].intercalate definition.type.words

def nullable : Bool :=
  !decide (definition.declares .notNull ∨ definition.declares .primaryKey)

def defaultExpression : Option JsString :=
  definition.clauses.findSome? fun clause => clause.2.defaultExpression

/-- The constraints that the clauses of one kind declare. -/
def constraintsOf (platform : SchemaPlatform) (columnName : JsString)
    (kind : ClauseKind) : List ConstraintMetadata :=
  definition.clauses.filterMap fun clause =>
    if clause.2.kind = kind then clause.2.constraint platform columnName
    else none

def constraints (platform : SchemaPlatform) (columnName : JsString) :
    List ConstraintMetadata :=
  definition.constraintsOf platform columnName .primaryKey ++
    definition.constraintsOf platform columnName .unique ++
    definition.constraintsOf platform columnName .references ++
    definition.constraintsOf platform columnName .check

/-- The text in front of a clause. -/
def front (before : List (Gap × Clause)) (gap : Gap) : JsString :=
  definition.type.text ++ (rowText Clause.text before ++ gap.text)

end ColumnDefinition

/-! ## Plainly written definitions -/

/-- The default is the first one in the text, on one line, and holds no white
space with the words of a clause behind it. -/
structure PlainDefault (front : JsString) (word : Keyword (js "default"))
    (gap : Gap) (expression : Part) (behind : JsString) : Prop where
  first : defaultClause.beginsIn [] front
    (word.text ++ (gap.text ++ (expression.text ++ behind))) = false
  oneLine : ∀ unit ∈ expression.text, isPoint unit = true
  unbroken : (row [clauseAhead]).beginsIn
    (gap.text.reverse ++ (word.text.reverse ++ front.reverse))
    expression.text behind = false

def ReferenceEvent.words : ReferenceEvent → JsString
  | delete => js "on delete"
  | update => js "on update"

/-- The action is the first one for its event, with one blank in `ON DELETE`,
and nothing but blanks can be read on behind it. -/
structure PlainAction (front : JsString) (action : ReferenceAction)
    (behind : JsString) : Prop where
  first : (actionClause action.event.words).beginsIn [] front
    (action.text ++ behind) = false
  spelled : action.gap.text = [32]
  effect : ∀ unit ∈ action.effect.text, isActionUnit unit = true
  ends : ∀ unit ∈ behind.takeWhile isActionUnit, isSpace unit = true

/-- The reference is the first one in the text, its parentheses are on one line
and the last to close there, and the first action of either event is plain. -/
structure PlainReference (front : JsString) (reference : Reference)
    (behind : JsString) : Prop where
  first : referencesClause.beginsIn [] front
    ((Clause.references reference).text ++ behind) = false
  table : ∀ unit ∈ reference.table.text, isTableUnit unit = true
  oneLine : ∀ unit ∈ reference.inner, isPoint unit = true
  ends : 41 ∉ (rowText ReferenceAction.text reference.actions ++
    behind).takeWhile isPoint
  actions : ∀ before gap action after,
    reference.actions = before ++ (gap, action) :: after →
    (∀ earlier ∈ before, earlier.2.event ≠ action.event) →
      PlainAction
        (front ++ (reference.head ++
          (rowText ReferenceAction.text before ++ gap.text)))
        action (rowText ReferenceAction.text after ++ behind)
  declared : ∀ event,
    ((actionClause event.words).exec
      (front ++ ((Clause.references reference).text ++ behind))).isSome →
      (reference.effectOf event).isSome

/-- The check is the first one in the text, and no parenthesis closes behind
it. -/
structure PlainCheck (front : JsString) (word : Keyword (js "check"))
    (blank : Blank) (expression : Enclosed) (behind : JsString) : Prop where
  first : checkClause.beginsIn [] front
    ((Clause.check word blank expression).text ++ behind) = false
  ends : 41 ∉ behind

structure PlainlyWritten (platform : SchemaPlatform)
    (definition : ColumnDefinition) : Prop where
  typeWords : ∀ word ∈ definition.type.words,
    clauseWords.contains (platform.toUpperCase word) = false
  spacedCheck : ∀ gap word blank expression after,
    definition.clauses = (gap, .check word blank expression) :: after →
      blank.text ≠ []
  once : ∀ kind, kind ≠ .notNull → kind ≠ .null →
    definition.clauses.countP (fun clause => clause.2.kind = kind) ≤ 1
  nullability : (either notNull primaryKeyWords).found definition.text = true →
    definition.declares .notNull ∨ definition.declares .primaryKey
  primaryKey : primaryKeyWords.found definition.text = true →
    definition.declares .primaryKey
  unique : uniqueWord.found definition.text = true →
    definition.declares .unique
  default : (defaultClause.exec definition.text).isSome →
    definition.declares .default
  references : (referencesClause.exec definition.text).isSome →
    definition.declares .references
  check : (checkClause.exec definition.text).isSome →
    definition.declares .check
  defaults : ∀ before gap word wordGap expression after,
    definition.clauses =
        before ++ (gap, .default word wordGap expression) :: after →
      PlainDefault (definition.front before gap) word wordGap expression
        (rowText Clause.text after)
  referred : ∀ before gap reference after,
    definition.clauses = before ++ (gap, .references reference) :: after →
      PlainReference (definition.front before gap) reference
        (rowText Clause.text after)
  checked : ∀ before gap word blank expression after,
    definition.clauses =
        before ++ (gap, .check word blank expression) :: after →
      PlainCheck (definition.front before gap) word blank expression
        (rowText Clause.text after)

/-! ## Clauses in the text -/

namespace ColumnDefinition

variable {definition : ColumnDefinition} {before after : List (Gap × Clause)}
  {gap : Gap} {clause : Clause}

theorem text_eq (splits :
    definition.clauses = before ++ (gap, clause) :: after) :
    definition.text = definition.front before gap ++
      (clause.text ++ rowText Clause.text after) := by
  rw [text, splits, rowText, List.flatMap_append, List.flatMap_cons, front]
  simp only [rowText, List.append_assoc]

theorem exists_split_of_declares {kind : ClauseKind}
    (declared : definition.declares kind) :
    ∃ before gap clause after,
      definition.clauses = before ++ (gap, clause) :: after ∧
        clause.kind = kind := by
  obtain ⟨⟨gap, clause⟩, member, isKind⟩ := declared
  obtain ⟨before, after, splits⟩ := List.append_of_mem member
  exact ⟨before, gap, clause, after, splits, isKind⟩

/-- What follows a clause is a gap, or nothing. -/
theorem head_row (items : List (Gap × Clause)) :
    (rowText Clause.text items).head?.all isSpace = true := by
  cases items with
  | nil =>
      rfl
  | cons item items =>
      obtain ⟨unit, rest, isText⟩ := List.exists_cons_of_ne_nil item.1.filled
      rw [rowText, List.flatMap_cons, isText]
      apply item.1.blank
      rw [isText]
      exact List.mem_cons_self

end ColumnDefinition

/-! ## The type -/

def upperUnit (unit : UInt16) : UInt16 :=
  if 97 ≤ unit && unit ≤ 122 then unit - 32 else unit

/-- What `toUpperCase` does with letters of ASCII. -/
def UppercasesLetters (platform : SchemaPlatform) : Prop :=
  ∀ text : JsString, (∀ unit ∈ text, isCaselessLetter unit = true) →
    platform.toUpperCase text = text.map upperUnit

theorem upperUnit_lowerUnit {unit : UInt16}
    (letter : isCaselessLetter unit = true) :
    upperUnit (lowerUnit unit) = upperUnit unit := by
  have range := isCaselessLetter_cases letter
  by_cases capital : (65 ≤ unit && unit ≤ 90) = true
  · have small : ¬((97 ≤ unit && unit ≤ 122) = true) := by
      simp only [Bool.and_eq_true, decide_eq_true_eq, UInt16.le_iff_toNat_le,
        UInt16.reduceToNat] at capital ⊢
      omega
    have lowered : (97 ≤ unit + 32 && unit + 32 ≤ 122) = true := by
      simp only [Bool.and_eq_true, decide_eq_true_eq, UInt16.le_iff_toNat_le,
        UInt16.reduceToNat, UInt16.toNat_add] at capital ⊢
      omega
    rw [lowerUnit, if_pos capital, upperUnit, if_pos lowered, upperUnit,
      if_neg small, UInt16.add_sub_cancel]
  · rw [lowerUnit, if_neg capital]

theorem Keyword.toUpperCase {platform : SchemaPlatform}
    (uppercases : UppercasesLetters platform) {word : JsString}
    (keyword : Keyword word) (isWord : isWord word = true) :
    platform.toUpperCase keyword.text = word.map upperUnit := by
  have letters := keyword.letters isWord
  have same : word.map upperUnit =
      (lowerCase keyword.text).map upperUnit := by
    rw [keyword.reads]
  rw [uppercases _ letters, same, lowerCase, List.map_map]
  refine List.map_congr_left fun unit member => ?_
  exact (upperUnit_lowerUnit (letters unit member)).symm

theorem splitSpacesFrom_word {word : JsString}
    (unspaced : ∀ unit ∈ word, isSpace unit = false)
    (current rest : JsString) :
    splitSpacesFrom current false (word ++ rest) =
      splitSpacesFrom (current ++ word) false rest := by
  induction word generalizing current with
  | nil =>
      rw [List.nil_append, List.append_nil]
  | cons unit word ih =>
      obtain ⟨here, others⟩ := List.forall_mem_cons.mp unspaced
      rw [List.cons_append, splitSpacesFrom, here, if_neg Bool.false_ne_true,
        ih others, List.append_assoc, List.singleton_append]

theorem splitSpacesFrom_run {blank rest : JsString}
    (isBlank : ∀ unit ∈ blank, isSpace unit = true)
    (starts : rest.head?.any (fun unit => !isSpace unit) = true) :
    splitSpacesFrom [] true (blank ++ rest) = splitSpaces rest := by
  induction blank with
  | nil =>
      cases rest with
      | nil => cases starts
      | cons unit rest =>
          have filled : isSpace unit = false := by simpa using starts
          rw [List.nil_append, splitSpaces, splitSpacesFrom, filled,
            splitSpacesFrom, filled]
          rfl
  | cons unit blank ih =>
      obtain ⟨here, others⟩ := List.forall_mem_cons.mp isBlank
      rw [List.cons_append, splitSpacesFrom, if_pos here, if_pos rfl,
        ih others]

/-- A word and a gap are split off. -/
theorem splitSpaces_word {word rest : JsString} (gap : Gap)
    (unspaced : ∀ unit ∈ word, isSpace unit = false)
    (starts : rest.head?.any (fun unit => !isSpace unit) = true) :
    splitSpaces (word ++ (gap.text ++ rest)) = word :: splitSpaces rest := by
  obtain ⟨unit, blank, isText⟩ := List.exists_cons_of_ne_nil gap.filled
  have isBlank := gap.blank
  rw [isText, List.forall_mem_cons] at isBlank
  rw [splitSpaces, splitSpacesFrom_word unspaced, isText, List.cons_append,
    splitSpacesFrom, if_pos isBlank.1, if_neg Bool.false_ne_true,
    splitSpacesFrom_run isBlank.2 starts, List.nil_append]

/-- The first token is the word in front of the first white space. -/
theorem splitSpaces_head {word rest : JsString}
    (unspaced : ∀ unit ∈ word, isSpace unit = false)
    (follows : rest.head?.all isSpace = true) :
    (splitSpaces (word ++ rest)).head? = some word := by
  rw [splitSpaces, splitSpacesFrom_word unspaced, List.nil_append]
  cases rest with
  | nil =>
      rfl
  | cons unit rest =>
      have blank : isSpace unit = true := follows
      rw [splitSpacesFrom, if_pos blank, if_neg Bool.false_ne_true]
      rfl

/-- The tokens of a row behind a word. -/
def rowTokens (items : List (Gap × Clause)) : List JsString :=
  match items with
  | [] => []
  | (_, clause) :: rest =>
      splitSpaces (clause.text ++ rowText Clause.text rest)

theorem splitSpaces_row {word : JsString} (others : List (Gap × JsString))
    (filled : ∀ each ∈ word :: others.map Prod.snd, each ≠ [])
    (unspaced : ∀ each ∈ word :: others.map Prod.snd,
      ∀ unit ∈ each, isSpace unit = false)
    (items : List (Gap × Clause)) :
    splitSpaces (word ++ (rowText id others ++ rowText Clause.text items)) =
      word :: (others.map Prod.snd ++ rowTokens items) := by
  induction others generalizing word with
  | nil =>
      have here := unspaced word List.mem_cons_self
      cases items with
      | nil =>
          change splitSpaces (word ++ []) = [word]
          rw [splitSpaces, splitSpacesFrom_word here]
          rfl
      | cons item items =>
          have starts : (item.2.text ++ rowText Clause.text items).head?.any
              (fun unit => !isSpace unit) = true := by
            have first := item.2.tight.first
            cases isText : item.2.text with
            | nil => rw [isText] at first; cases first
            | cons unit rest => rw [isText] at first; exact first
          have shape : rowText Clause.text (item :: items) =
              item.1.text ++ (item.2.text ++ rowText Clause.text items) := by
            rw [rowText, List.flatMap_cons, List.append_assoc]
            rfl
          change splitSpaces (word ++ rowText Clause.text (item :: items)) = _
          rw [shape, splitSpaces_word item.1 here starts]
          rfl
  | cons other others ih =>
      have here := unspaced word List.mem_cons_self
      have next := fun each member =>
        filled each (List.mem_cons_of_mem _ member)
      have nextUnspaced := fun each member =>
        unspaced each (List.mem_cons_of_mem _ member)
      have shape : rowText id (other :: others) =
          other.1.text ++ (other.2 ++ rowText id others) := by
        rw [rowText, List.flatMap_cons, List.append_assoc]
        rfl
      have starts : (other.2 ++ (rowText id others ++
          rowText Clause.text items)).head?.any (fun unit => !isSpace unit) =
            true := by
        have first := (tight_of_unspaced (next _ List.mem_cons_self)
          (nextUnspaced _ List.mem_cons_self)).first
        cases isText : other.2 with
        | nil => exact absurd isText (next _ List.mem_cons_self)
        | cons unit rest => rw [isText] at first; exact first
      rw [shape, List.append_assoc, List.append_assoc,
        splitSpaces_word other.1 here starts, ih next nextUnspaced]
      rfl

/-- The word with which a clause begins. -/
def Clause.opening : Clause → JsString
  | notNull word _ _ => word.text
  | null word => word.text
  | default word _ _ => word.text
  | unique word => word.text
  | primaryKey word _ _ => word.text
  | references reference => reference.word.text
  | check word _ _ => word.text

theorem Gap.head_append (gap : Gap) (rest : JsString) :
    (gap.text ++ rest).head?.all isSpace = true := by
  obtain ⟨unit, blank, isText⟩ := List.exists_cons_of_ne_nil gap.filled
  have isBlank := gap.blank
  rw [isText] at isBlank ⊢
  exact isBlank unit List.mem_cons_self

namespace Clause

/-- A clause opens with one of the words at which a type ends. -/
theorem exists_keyword (clause : Clause) :
    ∃ (word : JsString) (keyword : Keyword word),
      clause.opening = keyword.text ∧ isWord word = true ∧
        clauseWords.contains (word.map upperUnit) = true := by
  cases clause with
  | notNull word gap nullWord =>
      exact ⟨_, word, rfl, by decide, by decide⟩
  | null word =>
      exact ⟨_, word, rfl, by decide, by decide⟩
  | default word gap expression =>
      exact ⟨_, word, rfl, by decide, by decide⟩
  | unique word =>
      exact ⟨_, word, rfl, by decide, by decide⟩
  | primaryKey word gap keyWord =>
      exact ⟨_, word, rfl, by decide, by decide⟩
  | references reference =>
      exact ⟨_, reference.word, rfl, by decide, by decide⟩
  | check word blank expression =>
      exact ⟨_, word, rfl, by decide, by decide⟩

theorem opening_unspaced (clause : Clause) :
    ∀ unit ∈ clause.opening, isSpace unit = false := by
  obtain ⟨word, keyword, isOpening, isWord, _⟩ := clause.exists_keyword
  rw [isOpening]
  intro unit member
  exact isSpace_of_letter (keyword.letters isWord unit member)

theorem toUpperCase_opening {platform : SchemaPlatform}
    (uppercases : UppercasesLetters platform) (clause : Clause) :
    clauseWords.contains (platform.toUpperCase clause.opening) = true := by
  obtain ⟨word, keyword, isOpening, isWord, ends⟩ := clause.exists_keyword
  rw [isOpening, keyword.toUpperCase uppercases isWord]
  exact ends

/-- White space follows the first word, unless a parenthesis does. -/
theorem exists_opening (clause : Clause)
    (spaced : ∀ word blank expression,
      clause = .check word blank expression → blank.text ≠ [])
    {rest : JsString} (follows : rest.head?.all isSpace = true) :
    ∃ more, clause.text ++ rest = clause.opening ++ more ∧
      more.head?.all isSpace = true := by
  cases clause with
  | notNull word gap nullWord =>
      refine ⟨gap.text ++ (nullWord.text ++ rest), ?_, gap.head_append _⟩
      simp only [text, opening, List.append_assoc]
  | null word =>
      exact ⟨rest, rfl, follows⟩
  | default word gap expression =>
      refine ⟨gap.text ++ (expression.text ++ rest), ?_, gap.head_append _⟩
      simp only [text, opening, List.append_assoc]
  | unique word =>
      exact ⟨rest, rfl, follows⟩
  | primaryKey word gap keyWord =>
      refine ⟨gap.text ++ (keyWord.text ++ rest), ?_, gap.head_append _⟩
      simp only [text, opening, List.append_assoc]
  | references reference =>
      refine ⟨reference.gap.text ++ (reference.table.text ++
        (reference.blank.text ++ (40 :: (reference.inner ++ [41]) ++
          (rowText ReferenceAction.text reference.actions ++ rest)))),
        ?_, reference.gap.head_append _⟩
      simp only [text, opening, Reference.head, List.append_assoc]
  | check word blank expression =>
      refine ⟨blank.text ++ (40 :: (expression.text ++ [41]) ++ rest), ?_, ?_⟩
      · simp only [text, opening, List.append_assoc]
      · exact Gap.head_append ⟨blank, spaced word blank expression rfl⟩ _

end Clause

theorem takeWhile_eq_nil_of_head {tokens : List JsString} {word : JsString}
    {test : JsString → Bool} (starts : tokens.head? = some word)
    (stops : test word = false) : tokens.takeWhile test = [] := by
  cases tokens with
  | nil =>
      rfl
  | cons token tokens =>
      obtain rfl := Option.some.inj starts
      rw [List.takeWhile_cons, stops]
      rfl

/-- The words of the type, with one blank between them. -/
theorem extractDataType_eq {platform : SchemaPlatform}
    (uppercases : UppercasesLetters platform)
    {definition : ColumnDefinition}
    (plain : PlainlyWritten platform definition) :
    extractDataType platform definition.text = definition.typeName := by
  have tokens : splitSpaces definition.text =
      definition.type.words ++ rowTokens definition.clauses := by
    rw [ColumnDefinition.text, ColumnType.text, List.append_assoc,
      splitSpaces_row _ definition.type.filled definition.type.unspaced]
    rfl
  have passes : ∀ word ∈ definition.type.words,
      (!clauseWords.contains (platform.toUpperCase word)) = true := by
    intro word member
    rw [plain.typeWords word member]
    rfl
  have stops : (rowTokens definition.clauses).takeWhile (fun token =>
      !clauseWords.contains (platform.toUpperCase token)) = [] := by
    cases isClauses : definition.clauses with
    | nil =>
        rfl
    | cons item rest =>
        have spaced : ∀ word blank expression,
            item.2 = .check word blank expression → blank.text ≠ [] := by
          intro word blank expression isCheck
          refine plain.spacedCheck item.1 word blank expression rest ?_
          rw [isClauses, ← isCheck]
        obtain ⟨more, splits, follows⟩ := item.2.exists_opening spaced
          (ColumnDefinition.head_row rest)
        have starts : (rowTokens (item :: rest)).head? =
            some item.2.opening := by
          change (splitSpaces (item.2.text ++ rowText Clause.text rest)).head? =
            _
          rw [splits]
          exact splitSpaces_head item.2.opening_unspaced follows
        refine takeWhile_eq_nil_of_head starts ?_
        rw [item.2.toUpperCase_opening uppercases]
        rfl
  rw [extractDataType, definition.tight.trim_eq, tokens,
    List.takeWhile_append_of_pos passes, stops, List.append_nil]
  rfl

/-! ## Nullability, keys and unique columns -/

theorem Gap.mem_someSpaces (gap : Gap) : gap.text ∈ someSpaces.language :=
  mem_plus_one gap.filled gap.blank

theorem someSpaces_edgeFree : someSpaces.EdgeFree := by
  decide

theorem Keyword.mem_caseless {word : JsString} (keyword : Keyword word) :
    keyword.text ∈ (caseless word).language :=
  Runtime.mem_caseless.mpr keyword.reads

theorem edge_of_blank {text : JsString}
    (follows : text.head?.all isSpace = true) :
    text.head?.any isAsciiWordUnit = false := by
  cases text with
  | nil =>
      rfl
  | cons unit rest =>
      exact isAsciiWordUnit_of_isSpace follows

/-- A keyword starts and ends with word units. -/
theorem Keyword.starts {word : JsString} (keyword : Keyword word)
    (isWord : isWord word = true) (rest : JsString) :
    (keyword.text ++ rest).head?.any isAsciiWordUnit = true := by
  have letters := keyword.letters isWord
  obtain ⟨unit, others, isText⟩ :=
    List.exists_cons_of_ne_nil (keyword.filled isWord)
  rw [isText] at letters ⊢
  exact isAsciiWordUnit_of_letter (letters unit List.mem_cons_self)

theorem Keyword.ends {word : JsString} (keyword : Keyword word)
    (isWord : isWord word = true) (passed : JsString) :
    (keyword.text.reverse ++ passed).head?.any isAsciiWordUnit = true := by
  have letters := keyword.letters isWord
  rcases List.eq_nil_or_concat keyword.text with empty | ⟨others, last, isText⟩
  · exact absurd empty (keyword.filled isWord)
  · rw [isText, List.concat_eq_append] at letters ⊢
    rw [List.reverse_append]
    exact isAsciiWordUnit_of_letter
      (letters last (List.mem_append_right _ List.mem_cons_self))

theorem mem_notNull (word : Keyword (js "not")) (gap : Gap)
    (nullWord : Keyword (js "null")) :
    (Clause.notNull word gap nullWord).text ∈ notNull.language := by
  rw [notNull, mem_sequence_cons]
  refine ⟨word.text, word.mem_caseless, gap.text ++ nullWord.text, ?_,
    (List.append_assoc _ _ _).symm⟩
  exact mem_sequence_cons.mpr
    ⟨gap.text, gap.mem_someSpaces, nullWord.text, nullWord.mem_caseless, rfl⟩

theorem mem_primaryKeyWords (word : Keyword (js "primary")) (gap : Gap)
    (keyWord : Keyword (js "key")) :
    (Clause.primaryKey word gap keyWord).text ∈ primaryKeyWords.language := by
  rw [primaryKeyWords, mem_sequence_cons]
  refine ⟨word.text, word.mem_caseless, gap.text ++ keyWord.text, ?_,
    (List.append_assoc _ _ _).symm⟩
  exact mem_sequence_cons.mpr
    ⟨gap.text, gap.mem_someSpaces, keyWord.text, keyWord.mem_caseless, rfl⟩

namespace ColumnDefinition

variable {definition : ColumnDefinition}

/-- No word unit is next to a clause. -/
theorem front_edge (before : List (Gap × Clause)) (gap : Gap) :
    (definition.front before gap).reverse.head?.any isAsciiWordUnit =
      false := by
  rcases List.eq_nil_or_concat gap.text with empty | ⟨blank, unit, isText⟩
  · exact absurd empty gap.filled
  · have isBlank : isSpace unit = true := by
      apply gap.blank
      rw [isText, List.concat_eq_append]
      exact List.mem_append_right _ List.mem_cons_self
    rw [front, isText, List.concat_eq_append, List.reverse_append,
      List.reverse_append, List.reverse_append]
    exact isAsciiWordUnit_of_isSpace isBlank

theorem row_edge (items : List (Gap × Clause)) :
    (rowText Clause.text items).head?.any isAsciiWordUnit = false :=
  edge_of_blank (head_row items)

/-- The words of a declared clause stand in the text. -/
theorem found_of_declares {kind : ClauseKind} {regex : Regex UInt16}
    (free : regex.EdgeFree) (declared : definition.declares kind)
    (spells : ∀ clause : Clause, clause.kind = kind →
      clause.text ∈ regex.language) :
    regex.found definition.text = true := by
  obtain ⟨before, gap, clause, after, splits, isKind⟩ :=
    exists_split_of_declares declared
  refine found_of_infix free (spells clause isKind)
    ⟨definition.front before gap, rowText Clause.text after, ?_⟩
  rw [text_eq splits, List.append_assoc]

end ColumnDefinition

theorem spells_notNull (clause : Clause) (isKind : clause.kind = .notNull) :
    clause.text ∈ notNull.language := by
  cases clause with
  | notNull word gap nullWord => exact mem_notNull word gap nullWord
  | _ => cases isKind

theorem spells_primaryKey (clause : Clause)
    (isKind : clause.kind = .primaryKey) :
    clause.text ∈ primaryKeyWords.language := by
  cases clause with
  | primaryKey word gap keyWord => exact mem_primaryKeyWords word gap keyWord
  | _ => cases isKind

/-- The nullability is read as declared exactly if its words stand in no other
place, or make no difference. -/
theorem isNullable_eq_iff (definition : ColumnDefinition) :
    isNullable definition.text = definition.nullable ↔
      ((either notNull primaryKeyWords).found definition.text = true →
        definition.declares .notNull ∨ definition.declares .primaryKey) := by
  have spelled : definition.declares .notNull ∨
      definition.declares .primaryKey →
        (either notNull primaryKeyWords).found definition.text = true := by
    intro declared
    cases declared with
    | inl isNotNull =>
        exact ColumnDefinition.found_of_declares (by decide) isNotNull
          fun clause isKind => Or.inl (spells_notNull clause isKind)
    | inr isPrimaryKey =>
        exact ColumnDefinition.found_of_declares (by decide) isPrimaryKey
          fun clause isKind => Or.inr (spells_primaryKey clause isKind)
  rw [isNullable, ColumnDefinition.nullable, Bool.not_inj_iff,
    Bool.eq_iff_iff, decide_eq_true_eq]
  exact ⟨fun same => same.mp, fun found => ⟨found, spelled⟩⟩

section Plain

variable {platform : SchemaPlatform} {definition : ColumnDefinition}

theorem isNullable_eq (plain : PlainlyWritten platform definition) :
    isNullable definition.text = definition.nullable :=
  (isNullable_eq_iff definition).mpr plain.nullability

theorem primaryKey_found_iff (plain : PlainlyWritten platform definition) :
    primaryKeyWords.found definition.text = true ↔
      definition.declares .primaryKey := by
  constructor
  · exact plain.primaryKey
  · intro declared
    exact ColumnDefinition.found_of_declares (by decide) declared
      spells_primaryKey

theorem unique_found_iff (plain : PlainlyWritten platform definition) :
    uniqueWord.found definition.text = true ↔
      definition.declares .unique := by
  constructor
  · exact plain.unique
  · intro declared
    obtain ⟨before, gap, clause, after, splits, isKind⟩ :=
      ColumnDefinition.exists_split_of_declares declared
    cases clause with
    | unique word =>
        rw [uniqueWord, found_between_edges (by decide)]
        refine ⟨definition.front before gap, word.text,
          rowText Clause.text after, ColumnDefinition.text_eq splits,
          word.mem_caseless, ?_, ?_⟩
        · rw [ColumnDefinition.front_edge, word.starts (by decide)]
          rfl
        · rw [word.ends (by decide), ColumnDefinition.row_edge]
          rfl
    | _ => cases isKind

end Plain

end BidayaxExecutive.Reconciliation.ColumnDefinitions
