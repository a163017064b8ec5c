import BidayaxExecutive.Reconciliation.TopLevelCsv

/-!
# Column definitions

The definitions of columns as a migration writes them: a type and then clauses
in any order.  A word may be written in either case, white space of any kind
and length stands between the words, and an expression is any text whose
quotes and parentheses are balanced.
-/

namespace BidayaxExecutive.Reconciliation.ColumnDefinitions

open BidayaxExecutive.Runtime JsString
open BidayaxExecutive.Library.Nesting
open BidayaxExecutive.Reconciliation.MigrationParser

/-! ## Words and white space -/

/-- A word in either case. -/
structure Keyword (word : JsString) where
  text : JsString
  reads : lowerCase text = word

structure Blank where
  text : JsString
  blank : ∀ unit ∈ text, isSpace unit = true

structure Gap extends Blank where
  filled : text ≠ []

/-- No white space is at the ends. -/
structure Tight (text : JsString) : Prop where
  first : text.head?.any (fun unit => !isSpace unit) = true
  last : text.getLast?.any (fun unit => !isSpace unit) = true

/-- A balanced text of its own. -/
structure Part where
  text : JsString
  tight : Tight text
  balanced : Balanced csvMarks false text

/-- A balanced text in parentheses. -/
structure Enclosed where
  text : JsString
  filled : text ≠ []
  balanced : Balanced csvMarks true text

/-- Items, each with a gap in front of it. -/
def rowText {β : Type} (text : β → JsString) (items : List (Gap × β)) :
    JsString :=
  items.flatMap fun item => item.1.text ++ text item.2

/-! ## Definitions -/

/-- A type is a row of words. -/
structure ColumnType where
  word : JsString
  others : List (Gap × JsString)
  filled : ∀ each ∈ word :: others.map Prod.snd, each ≠ []
  unspaced : ∀ each ∈ word :: others.map Prod.snd,
    ∀ unit ∈ each, isSpace unit = false
  balanced : Balanced csvMarks false (word ++ rowText id others)

inductive ReferenceEvent where
  | delete
  | update
  deriving DecidableEq, Repr

def ReferenceEvent.word : ReferenceEvent → JsString
  | delete => js "delete"
  | update => js "update"

/-- `ON DELETE effect` or `ON UPDATE effect`. -/
structure ReferenceAction where
  event : ReferenceEvent
  onWord : Keyword (js "on")
  gap : Gap
  eventWord : Keyword event.word
  effectGap : Gap
  effect : Part

/-- `REFERENCES table (column)` and what happens to the references. -/
structure Reference where
  word : Keyword (js "references")
  gap : Gap
  table : Part
  blank : Blank
  lead : Blank
  column : Part
  trail : Blank
  actions : List (Gap × ReferenceAction)

inductive Clause where
  | notNull (word : Keyword (js "not")) (gap : Gap)
      (nullWord : Keyword (js "null"))
  | null (word : Keyword (js "null"))
  | default (word : Keyword (js "default")) (gap : Gap) (expression : Part)
  | unique (word : Keyword (js "unique"))
  | primaryKey (word : Keyword (js "primary")) (gap : Gap)
      (keyWord : Keyword (js "key"))
  | references (reference : Reference)
  | check (word : Keyword (js "check")) (blank : Blank) (expression : Enclosed)

inductive ClauseKind where
  | notNull
  | null
  | default
  | unique
  | primaryKey
  | references
  | check
  deriving DecidableEq, Repr

def Clause.kind : Clause → ClauseKind
  | notNull .. => .notNull
  | null _ => .null
  | default .. => .default
  | unique _ => .unique
  | primaryKey .. => .primaryKey
  | references _ => .references
  | check .. => .check

structure ColumnDefinition where
  type : ColumnType
  clauses : List (Gap × Clause)

/-! ## Texts -/

def ColumnType.text (type : ColumnType) : JsString :=
  type.word ++ rowText id type.others

def ColumnType.words (type : ColumnType) : List JsString :=
  type.word :: type.others.map Prod.snd

def ReferenceAction.text (action : ReferenceAction) : JsString :=
  action.onWord.text ++ action.gap.text ++ action.eventWord.text ++
    action.effectGap.text ++ action.effect.text

/-- What stands in the parentheses. -/
def Reference.inner (reference : Reference) : JsString :=
  reference.lead.text ++ reference.column.text ++ reference.trail.text

def Reference.head (reference : Reference) : JsString :=
  reference.word.text ++ reference.gap.text ++ reference.table.text ++
    reference.blank.text ++ 40 :: (reference.inner ++ [41])

def Clause.text : Clause → JsString
  | notNull word gap nullWord => word.text ++ gap.text ++ nullWord.text
  | null word => word.text
  | default word gap expression => word.text ++ gap.text ++ expression.text
  | unique word => word.text
  | primaryKey word gap keyWord => word.text ++ gap.text ++ keyWord.text
  | references reference =>
      reference.head ++ rowText ReferenceAction.text reference.actions
  | check word blank expression =>
      word.text ++ blank.text ++ 40 :: (expression.text ++ [41])

def ColumnDefinition.text (definition : ColumnDefinition) : JsString :=
  definition.type.text ++ rowText Clause.text definition.clauses

/-! ## Letters -/

/-- A letter of ASCII in either case. -/
def isCaselessLetter (unit : UInt16) : Bool :=
  isLowerUnit (lowerUnit unit)

theorem isCaselessLetter_cases {unit : UInt16}
    (letter : isCaselessLetter unit = true) :
    (65 ≤ unit.toNat ∧ unit.toNat ≤ 90) ∨
      (97 ≤ unit.toNat ∧ unit.toNat ≤ 122) := by
  rw [isCaselessLetter, lowerUnit] at letter
  by_cases capital : (65 ≤ unit && unit ≤ 90) = true
  · simp only [Bool.and_eq_true, decide_eq_true_eq, UInt16.le_iff_toNat_le,
      UInt16.reduceToNat] at capital
    exact Or.inl capital
  · rw [if_neg capital] at letter
    simp only [isLowerUnit, Bool.and_eq_true, decide_eq_true_eq,
      UInt16.le_iff_toNat_le, UInt16.reduceToNat] at letter
    exact Or.inr letter

theorem isSpace_of_letter {unit : UInt16}
    (letter : isCaselessLetter unit = true) : isSpace unit = false := by
  have range := isCaselessLetter_cases letter
  simp only [isSpace, Bool.or_eq_false_iff, Bool.and_eq_false_iff,
    decide_eq_false_iff_not, beq_eq_false_iff_ne, ne_eq,
    UInt16.le_iff_toNat_le, ← UInt16.toNat_inj, UInt16.reduceToNat]
  omega

theorem neutral_of_letter {unit : UInt16}
    (letter : isCaselessLetter unit = true) :
    csvMarks.Plain unit ∧ unit ≠ csvMarks.separator := by
  have range := isCaselessLetter_cases letter
  simp only [Marks.Plain, csvMarks, Bool.or_eq_false_iff, beq_eq_false_iff_ne,
    ne_eq, ← UInt16.toNat_inj, UInt16.reduceToNat]
  omega

theorem isAsciiWordUnit_of_letter {unit : UInt16}
    (letter : isCaselessLetter unit = true) : isAsciiWordUnit unit = true := by
  have range := isCaselessLetter_cases letter
  simp only [isAsciiWordUnit, Bool.or_eq_true, Bool.and_eq_true,
    decide_eq_true_eq, UInt16.le_iff_toNat_le, UInt16.reduceToNat]
  omega

theorem isAsciiWordUnit_of_isSpace {unit : UInt16}
    (blank : isSpace unit = true) : isAsciiWordUnit unit = false := by
  simp only [isSpace, Bool.or_eq_true, Bool.and_eq_true, decide_eq_true_eq,
    beq_iff_eq, UInt16.le_iff_toNat_le, ← UInt16.toNat_inj,
    UInt16.reduceToNat] at blank
  simp only [isAsciiWordUnit, isDigitUnit, Bool.or_eq_false_iff,
    Bool.and_eq_false_iff, decide_eq_false_iff_not, beq_eq_false_iff_ne, ne_eq,
    UInt16.le_iff_toNat_le, ← UInt16.toNat_inj, UInt16.reduceToNat]
  omega

/-- A word in lower case, of letters only. -/
def isWord (word : JsString) : Bool :=
  !word.isEmpty && word.all isLowerUnit

namespace Keyword

variable {word : JsString} (keyword : Keyword word)

theorem letters (isWord : isWord word = true) :
    ∀ unit ∈ keyword.text, isCaselessLetter unit = true := by
  intro unit member
  rw [ColumnDefinitions.isWord, Bool.and_eq_true, List.all_eq_true] at isWord
  apply isWord.2
  rw [← keyword.reads]
  exact List.mem_map_of_mem member

theorem filled (isWord : isWord word = true) : keyword.text ≠ [] := by
  intro empty
  have nothing := keyword.reads
  rw [empty] at nothing
  rw [← nothing] at isWord
  exact absurd isWord (by decide)

end Keyword

/-! ## Tight texts -/

theorem Tight.join {first second : JsString} (left : Tight first)
    (middle : JsString) (right : Tight second) :
    Tight (first ++ (middle ++ second)) := by
  refine ⟨?_, ?_⟩
  · cases first with
    | nil => cases left.first
    | cons unit first => exact left.first
  · rw [← List.append_assoc, List.getLast?_append]
    have ends := right.last
    cases found : second.getLast? with
    | none => rw [found] at ends; cases ends
    | some unit => rw [found] at ends; exact ends

theorem tight_of_unspaced {text : JsString} (filled : text ≠ [])
    (unspaced : ∀ unit ∈ text, isSpace unit = false) : Tight text := by
  refine ⟨?_, ?_⟩
  · rw [List.head?_eq_some_head filled, Option.any_some,
      unspaced _ (List.head_mem filled)]
    rfl
  · rw [List.getLast?_eq_some_getLast filled, Option.any_some,
      unspaced _ (List.getLast_mem filled)]
    rfl

theorem Tight.ne_nil {text : JsString} (tight : Tight text) : text ≠ [] := by
  intro empty
  have first := tight.first
  rw [empty] at first
  cases first

theorem tight_row {β : Type} {text : β → JsString} {start : JsString}
    {items : List (Gap × β)} (tight : Tight start)
    (each : ∀ item ∈ items, Tight (text item.2)) :
    Tight (start ++ rowText text items) := by
  induction items generalizing start with
  | nil =>
      rw [rowText, List.flatMap_nil, List.append_nil]
      exact tight
  | cons item items ih =>
      obtain ⟨here, others⟩ := List.forall_mem_cons.mp each
      have onward := ih (tight.join item.1.text here) others
      rw [rowText, List.flatMap_cons, ← List.append_assoc]
      exact onward

theorem Keyword.tight {word : JsString} (keyword : Keyword word)
    (isWord : isWord word = true) : Tight keyword.text :=
  tight_of_unspaced (keyword.filled isWord) fun unit member =>
    isSpace_of_letter (keyword.letters isWord unit member)

theorem tight_closeParen : Tight [41] :=
  ⟨rfl, rfl⟩

theorem ColumnType.tight (type : ColumnType) : Tight type.text := by
  have each : ∀ word ∈ type.words, Tight word := fun word member =>
    tight_of_unspaced (type.filled word member) (type.unspaced word member)
  refine tight_row (each _ List.mem_cons_self) ?_
  intro item member
  exact each _ (List.mem_cons_of_mem _ (List.mem_map_of_mem member))

theorem ReferenceEvent.isWord_word (event : ReferenceEvent) :
    isWord event.word = true := by
  cases event <;> decide

theorem ReferenceAction.tight (action : ReferenceAction) :
    Tight action.text := by
  have starts := action.onWord.tight (by decide)
  have joined := starts.join
    (action.gap.text ++ (action.eventWord.text ++ action.effectGap.text))
    action.effect.tight
  simpa only [ReferenceAction.text, List.append_assoc] using joined

theorem Reference.head_tight (reference : Reference) :
    Tight reference.head := by
  have starts := reference.word.tight (by decide)
  have joined := starts.join
    (reference.gap.text ++ reference.table.text ++ reference.blank.text ++
      40 :: reference.inner) tight_closeParen
  simpa only [Reference.head, List.append_assoc, List.cons_append] using joined

theorem Clause.tight (clause : Clause) : Tight clause.text := by
  cases clause with
  | notNull word gap nullWord =>
      have joined := (word.tight (by decide)).join gap.text
        (nullWord.tight (by decide))
      rwa [← List.append_assoc] at joined
  | null word =>
      exact word.tight (by decide)
  | default word gap expression =>
      have joined := (word.tight (by decide)).join gap.text expression.tight
      rwa [← List.append_assoc] at joined
  | unique word =>
      exact word.tight (by decide)
  | primaryKey word gap keyWord =>
      have joined := (word.tight (by decide)).join gap.text
        (keyWord.tight (by decide))
      rwa [← List.append_assoc] at joined
  | references reference =>
      exact tight_row reference.head_tight fun action _ => action.2.tight
  | check word blank expression =>
      have joined := (word.tight (by decide)).join
        (blank.text ++ 40 :: expression.text) tight_closeParen
      simpa only [Clause.text, List.append_assoc, List.cons_append] using
        joined

theorem ColumnDefinition.tight (definition : ColumnDefinition) :
    Tight definition.text :=
  tight_row definition.type.tight fun clause _ => clause.2.tight

/-! ## Trimming -/

theorem dropWhile_blank {blank text : JsString}
    (isBlank : ∀ unit ∈ blank, isSpace unit = true)
    (starts : text.head?.any (fun unit => !isSpace unit) = true) :
    (blank ++ text).dropWhile isSpace = text := by
  induction blank with
  | nil =>
      cases text with
      | nil => cases starts
      | cons unit text =>
          rw [List.nil_append, List.dropWhile_cons_of_neg]
          simpa using starts
  | cons unit blank ih =>
      obtain ⟨here, others⟩ := List.forall_mem_cons.mp isBlank
      rw [List.cons_append, List.dropWhile_cons_of_pos here, ih others]

/-- White space around a tight text is trimmed. -/
theorem trim_padded {lead text trail : JsString}
    (leadBlank : ∀ unit ∈ lead, isSpace unit = true) (tight : Tight text)
    (trailBlank : ∀ unit ∈ trail, isSpace unit = true) :
    trim (lead ++ (text ++ trail)) = text := by
  have starts : (text ++ trail).head?.any (fun unit => !isSpace unit) =
      true := by
    cases text with
    | nil => cases tight.first
    | cons unit text => exact tight.first
  have trailReversed : ∀ unit ∈ trail.reverse, isSpace unit = true :=
    fun unit member => trailBlank unit (List.mem_reverse.mp member)
  have ends : text.reverse.head?.any (fun unit => !isSpace unit) = true := by
    rw [List.head?_reverse]
    exact tight.last
  rw [trim, dropWhile_blank leadBlank starts, List.reverse_append,
    dropWhile_blank trailReversed ends, List.reverse_reverse]

theorem Tight.trim_eq {text : JsString} (tight : Tight text) :
    trim text = text := by
  have nothing : ∀ unit ∈ ([] : JsString), isSpace unit = true :=
    List.forall_mem_nil _
  have padded := trim_padded nothing tight nothing
  rwa [List.nil_append, List.append_nil] at padded

/-! ## Balance -/

theorem Keyword.balanced {word : JsString} (keyword : Keyword word)
    (isWord : isWord word = true) (inside : Bool) :
    Balanced csvMarks inside keyword.text :=
  balanced_of_forall fun unit member =>
    neutral_of_letter (keyword.letters isWord unit member)

theorem Blank.balanced (blank : Blank) (inside : Bool) :
    Balanced csvMarks inside blank.text :=
  balanced_blank blank.blank

theorem balanced_row {β : Type} {text : β → JsString} {start : JsString}
    {items : List (Gap × β)} (balanced : Balanced csvMarks false start)
    (each : ∀ item ∈ items, Balanced csvMarks false (text item.2)) :
    Balanced csvMarks false (start ++ rowText text items) := by
  induction items generalizing start with
  | nil =>
      rw [rowText, List.flatMap_nil, List.append_nil]
      exact balanced
  | cons item items ih =>
      obtain ⟨here, others⟩ := List.forall_mem_cons.mp each
      have onward := ih
        (balanced.append ((item.1.toBlank.balanced false).append here)) others
      rw [rowText, List.flatMap_cons, ← List.append_assoc]
      exact onward

theorem ReferenceAction.balanced (action : ReferenceAction) :
    Balanced csvMarks false action.text :=
  ((((action.onWord.balanced (by decide) false).append
    (action.gap.toBlank.balanced false)).append
    (action.eventWord.balanced action.event.isWord_word false)).append
    (action.effectGap.toBlank.balanced false)).append action.effect.balanced

theorem Reference.head_balanced (reference : Reference) :
    Balanced csvMarks false reference.head := by
  have inner : Balanced csvMarks true reference.inner :=
    ((reference.lead.balanced true).append
      reference.column.balanced.inParens).append
      (reference.trail.balanced true)
  exact ((((reference.word.balanced (by decide) false).append
    (reference.gap.toBlank.balanced false)).append
    reference.table.balanced).append (reference.blank.balanced false)).append
    (Balanced.nested inner)

theorem Clause.balanced (clause : Clause) :
    Balanced csvMarks false clause.text := by
  cases clause with
  | notNull word gap nullWord =>
      exact ((word.balanced (by decide) false).append
        (gap.toBlank.balanced false)).append
        (nullWord.balanced (by decide) false)
  | null word =>
      exact word.balanced (by decide) false
  | default word gap expression =>
      exact ((word.balanced (by decide) false).append
        (gap.toBlank.balanced false)).append expression.balanced
  | unique word =>
      exact word.balanced (by decide) false
  | primaryKey word gap keyWord =>
      exact ((word.balanced (by decide) false).append
        (gap.toBlank.balanced false)).append
        (keyWord.balanced (by decide) false)
  | references reference =>
      exact balanced_row reference.head_balanced
        fun action _ => action.2.balanced
  | check word blank expression =>
      exact ((word.balanced (by decide) false).append
        (blank.balanced false)).append (Balanced.nested expression.balanced)

theorem ColumnDefinition.balanced (definition : ColumnDefinition) :
    Balanced csvMarks false definition.text :=
  balanced_row definition.type.balanced fun clause _ => clause.2.balanced

end BidayaxExecutive.Reconciliation.ColumnDefinitions
