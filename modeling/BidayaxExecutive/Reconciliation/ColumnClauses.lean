import BidayaxExecutive.Reconciliation.ColumnReading

/-!
# What the parser reads of a clause

The default, the reference and the check of a plainly written definition.  The
first match of each expression begins at the clause, and its pieces end where
the parts of the clause do.
-/

namespace BidayaxExecutive.Reconciliation.ColumnDefinitions

open BidayaxExecutive.Runtime JsString
open BidayaxExecutive.Library.Backtracking
open BidayaxExecutive.Library.Backtracking.Regex
open BidayaxExecutive.Library.Captures
open BidayaxExecutive.Library.Nesting
open BidayaxExecutive.Reconciliation.MigrationParser

/-! ## Words of the next clause -/

/-- White space or the parenthesis itself is in front of what a parenthesis
opens. -/
theorem Blank.head_openParen {test : UInt16 → Bool} (blank : Blank)
    (onSpace : ∀ {unit}, isSpace unit = true → test unit = false)
    (onParen : test 40 = false) (rest : JsString) :
    (blank.text ++ 40 :: rest).head?.all (fun unit => !test unit) = true := by
  cases isBlank : blank.text with
  | nil =>
      rw [List.nil_append, List.head?_cons, Option.all_some, onParen]
      rfl
  | cons unit units =>
      have isSpaces := blank.blank
      rw [isBlank] at isSpaces
      rw [List.cons_append, List.head?_cons, Option.all_some,
        onSpace (isSpaces unit List.mem_cons_self)]
      rfl

theorem isTableUnit_of_isSpace {unit : UInt16} (blank : isSpace unit = true) :
    isTableUnit unit = false := by
  rw [isTableUnit, blank]
  rfl

/-- A class that does not start a text has no symbol at its edge. -/
theorem any_eq_false_of_all_not {test : UInt16 → Bool} {text : JsString}
    (stops : text.head?.all (fun unit => !test unit) = true) :
    text.head?.any test = false := by
  cases text with
  | nil => rfl
  | cons unit text => simpa using stops

/-- The words of a clause that end a default, and what follows them. -/
theorem exists_announcement (clause : Clause)
    (other : clause.kind ≠ .default) {rest : JsString}
    (edge : rest.head?.any isAsciiWordUnit = false) :
    ∃ words more, clause.text ++ rest = words ++ more ∧
      words ∈ clauseAheadWords.language ∧
      (∀ passed, (words.reverse ++ passed).head?.any isAsciiWordUnit =
        true) ∧
      more.head?.any isAsciiWordUnit = false := by
  cases clause with
  | notNull word gap nullWord =>
      refine ⟨(Clause.notNull word gap nullWord).text, rest, rfl,
        mem_choice.mpr (Or.inl (mem_notNull word gap nullWord)), ?_, edge⟩
      intro passed
      rw [Clause.text, List.reverse_append, List.append_assoc]
      exact nullWord.ends (by decide) _
  | null word =>
      exact ⟨word.text, rest, rfl,
        mem_choice.mpr (Or.inr ⟨_, by simp, word.mem_caseless⟩),
        word.ends (by decide), edge⟩
  | default word gap expression =>
      exact absurd rfl other
  | unique word =>
      exact ⟨word.text, rest, rfl,
        mem_choice.mpr (Or.inr ⟨_, by simp, word.mem_caseless⟩),
        word.ends (by decide), edge⟩
  | primaryKey word gap keyWord =>
      refine ⟨(Clause.primaryKey word gap keyWord).text, rest, rfl,
        mem_choice.mpr (Or.inr ⟨primaryKeyWords, by simp,
          mem_primaryKeyWords word gap keyWord⟩), ?_, edge⟩
      intro passed
      rw [Clause.text, List.reverse_append, List.append_assoc]
      exact keyWord.ends (by decide) _
  | references reference =>
      have blankEdge : (reference.gap.text ++ (reference.table.text ++
          (reference.blank.text ++ (40 :: (reference.inner ++ [41]) ++
            (rowText ReferenceAction.text reference.actions ++
              rest))))).head?.any isAsciiWordUnit = false := by
        have follows := reference.gap.head_append (reference.table.text ++
          (reference.blank.text ++ (40 :: (reference.inner ++ [41]) ++
            (rowText ReferenceAction.text reference.actions ++ rest))))
        exact edge_of_blank follows
      refine ⟨reference.word.text, _, ?_,
        mem_choice.mpr (Or.inr ⟨_, by simp, reference.word.mem_caseless⟩),
        reference.word.ends (by decide), blankEdge⟩
      simp only [Clause.text, Reference.head, List.append_assoc]
  | check word blank expression =>
      have parenEdge := any_eq_false_of_all_not
        (blank.head_openParen isAsciiWordUnit_of_isSpace rfl
          (expression.text ++ [41] ++ rest))
      refine ⟨word.text, _, ?_,
        mem_choice.mpr (Or.inr ⟨_, by simp, word.mem_caseless⟩),
        word.ends (by decide), parenEdge⟩
      simp only [Clause.text, List.append_assoc, List.cons_append]

/-- The words of the next clause end a default. -/
theorem atDefaultEnd_row (passed : JsString) (items : List (Gap × Clause))
    (other : ∀ item ∈ items.head?, item.2.kind ≠ .default) :
    atDefaultEnd (passed, rowText Clause.text items) = true := by
  cases items with
  | nil =>
      rfl
  | cons item items =>
      obtain ⟨words, more, splits, member, ends, edge⟩ :=
        exists_announcement item.2 (other item rfl)
          (ColumnDefinition.row_edge items)
      have shape : rowText Clause.text (item :: items) =
          item.1.text ++ (words ++ more) := by
        rw [← splits, rowText, List.flatMap_cons, List.append_assoc]
        rfl
      have onSpaces := after_mem_ends someSpaces_edgeFree
        item.1.text item.1.mem_someSpaces passed (words ++ more)
      have onWords := after_mem_ends (by decide) words member
        (item.1.text.reverse ++ passed) more
      have atEdge : after (item.1.text.reverse ++ passed) words more ∈
          (Regex.edge isAsciiWordUnit).ends
            (after (item.1.text.reverse ++ passed) words more) := by
        rw [Regex.ends, List.mem_ite_nil_right]
        refine ⟨?_, List.mem_singleton_self _⟩
        rw [after, ends, edge]
        rfl
      have announced : after (item.1.text.reverse ++ passed) words more ∈
          (seq clauseAheadWords (Regex.edge isAsciiWordUnit)).ends
            (after passed item.1.text (words ++ more)) :=
        List.mem_flatMap.mpr ⟨_, onWords, atEdge⟩
      have reached : after (item.1.text.reverse ++ passed) words more ∈
          clauseAhead.ends (passed, item.1.text ++ (words ++ more)) :=
        List.mem_flatMap.mpr ⟨_, onSpaces, announced⟩
      rw [atDefaultEnd, shape, Bool.or_eq_true]
      left
      rw [Bool.not_eq_true', List.isEmpty_eq_false_iff]
      exact List.ne_nil_of_mem reached

/-! ## Pieces -/

section Pieces

variable {ahead : Place UInt16 → Bool} {pieces : List (Regex UInt16)}
  {passed rest : JsString} {reading : Reading UInt16}

theorem readPieces_keyword {word : JsString} (keyword : Keyword word)
    (onward : readPieces ahead pieces
      (keyword.text.reverse ++ passed, rest) = some reading) :
    readPieces ahead (caseless word :: pieces)
        (passed, keyword.text ++ rest) =
      some ⟨keyword.text :: reading.words, reading.ended⟩ :=
  readPieces_cons [] [] (ends_caseless keyword.reads passed rest)
    (List.forall_mem_nil _) onward

theorem readPieces_gap (gap : Gap)
    (stops : rest.head?.all (fun unit => !isSpace unit) = true)
    (onward : readPieces ahead pieces
      (gap.text.reverse ++ passed, rest) = some reading) :
    readPieces ahead (someSpaces :: pieces) (passed, gap.text ++ rest) =
      some ⟨gap.text :: reading.words, reading.ended⟩ :=
  readPieces_plus_whole gap.filled gap.blank stops onward

theorem readPieces_blank (blank : Blank)
    (stops : rest.head?.all (fun unit => !isSpace unit) = true)
    (onward : readPieces ahead pieces
      (blank.text.reverse ++ passed, rest) = some reading) :
    readPieces ahead (spaces :: pieces) (passed, blank.text ++ rest) =
      some ⟨blank.text :: reading.words, reading.ended⟩ :=
  readPieces_star_whole blank.blank stops onward

theorem readPieces_openParen
    (onward :
      readPieces ahead pieces (40 :: passed, rest) = some reading) :
    readPieces ahead (openParen :: pieces) (passed, 40 :: rest) =
      some ⟨[40] :: reading.words, reading.ended⟩ :=
  readPieces_one rfl onward

/-- The last parenthesis to close. -/
theorem readPieces_closeParen (passed rest : JsString) :
    readPieces (fun _ => true) [closeParen] (passed, 41 :: rest) =
      some ⟨[[41]], (41 :: passed, rest)⟩ :=
  readPieces_one rfl (readPieces_nil rfl)

/-- Nothing is read where no parenthesis closes. -/
theorem readPieces_closeParen_eq_none
    (ends : ∀ next others, rest = next :: others → next ≠ 41) :
    readPieces (fun _ => true) [closeParen] (passed, rest) = none := by
  apply readPieces_one_eq_none
  cases rest with
  | nil =>
      rfl
  | cons next others =>
      simpa using ends next others rfl

end Pieces

theorem Tight.head_append {text : JsString} (tight : Tight text)
    (rest : JsString) :
    (text ++ rest).head?.all (fun unit => !isSpace unit) = true := by
  have first := tight.first
  cases text with
  | nil => cases first
  | cons unit text => exact first

/-! ## The default -/

theorem read_default {front behind : JsString}
    {word : Keyword (js "default")} {gap : Gap} {expression : Part}
    (edge : front.reverse.head?.any isAsciiWordUnit = false)
    (plain : PlainDefault front word gap expression behind)
    (ends : ∀ passed, atDefaultEnd (passed, behind) = true) :
    ∃ reading, defaultClause.read (front.reverse,
        word.text ++ (gap.text ++ (expression.text ++ behind))) =
          some reading ∧
      group 3 reading = expression.text := by
  have atEnd := ends
    (expression.text.reverse ++
      (gap.text.reverse ++ (word.text.reverse ++ front.reverse)))
  have stop := readPieces_nil atEnd
  have shorter : ∀ start others, expression.text = start ++ others →
      start ≠ [] → others ≠ [] →
        readPieces atDefaultEnd [] (after
          (gap.text.reverse ++ (word.text.reverse ++ front.reverse)) start
            (others ++ behind)) = none := by
    intro start others splits _ filled
    obtain ⟨unit, others, rfl⟩ := List.exists_cons_of_ne_nil filled
    have unread := Expression.read_eq_none_of_beginsIn _ plain.unbroken splits
    have unannounced := ends_eq_nil_of_readPieces unread
    have unended : ¬(atDefaultEnd (after
        (gap.text.reverse ++ (word.text.reverse ++ front.reverse)) start
          (unit :: others ++ behind)) = true) := by
      rw [atDefaultEnd, after, List.cons_append, unannounced]
      exact Bool.false_ne_true
    rw [readPieces, if_neg unended]
  have onExpression := readPieces_lazyPlus expression.tight.ne_nil
    plain.oneLine shorter stop
  have onGap := readPieces_gap gap (expression.tight.head_append behind)
    onExpression
  have onWord := readPieces_keyword word onGap
  have there : ((front.reverse).head?.any isAsciiWordUnit !=
      (word.text ++ (gap.text ++ (expression.text ++ behind))).head?.any
        isAsciiWordUnit) = true := by
    rw [edge, word.starts (by decide)]
    rfl
  exact ⟨_, readPieces_edge there onWord, rfl⟩

theorem defaultExpression_eq_none {clause : Clause}
    (other : clause.kind ≠ .default) : clause.defaultExpression = none := by
  cases clause with
  | default word gap expression => exact absurd rfl other
  | _ => rfl

section Plain

variable {platform : SchemaPlatform} {definition : ColumnDefinition}
  {before after : List (Gap × Clause)} {gap : Gap} {clause : Clause}

/-- A clause of a kind that is written once is the only one of its kind. -/
theorem only_of_once (plain : PlainlyWritten platform definition)
    (splits : definition.clauses = before ++ (gap, clause) :: after)
    (isOnce : clause.kind ≠ .notNull ∧ clause.kind ≠ .null) :
    (∀ item ∈ before, item.2.kind ≠ clause.kind) ∧
      ∀ item ∈ after, item.2.kind ≠ clause.kind := by
  have counted := plain.once clause.kind isOnce.1 isOnce.2
  rw [splits, List.countP_append, List.countP_cons_of_pos (by simp)] at counted
  have none : ∀ items : List (Gap × Clause),
      items.countP (fun item => item.2.kind = clause.kind) = 0 →
        ∀ item ∈ items, item.2.kind ≠ clause.kind := by
    intro items nothing item member same
    exact List.countP_eq_zero.mp nothing item member (by simpa using same)
  exact ⟨none before (by omega), none after (by omega)⟩

theorem defaultText_eq (plain : PlainlyWritten platform definition) :
    defaultText definition.text = definition.defaultExpression := by
  by_cases declared : definition.declares .default
  · obtain ⟨before, gap, clause, after, splits, isKind⟩ :=
      ColumnDefinition.exists_split_of_declares declared
    cases clause with
    | default word wordGap expression =>
        have isPlain := plain.defaults before gap word wordGap expression after
          splits
        obtain ⟨notBefore, notAfter⟩ := only_of_once plain splits
          ⟨ClauseKind.noConfusion, ClauseKind.noConfusion⟩
        have ends : ∀ passed,
            atDefaultEnd (passed, rowText Clause.text after) = true := by
          intro passed
          refine atDefaultEnd_row passed after fun item isHead => ?_
          exact notAfter item (List.mem_of_mem_head? isHead)
        obtain ⟨reading, read, isExpression⟩ := read_default
          (ColumnDefinition.front_edge before gap) isPlain ends
        have text := ColumnDefinition.text_eq splits
        simp only [Clause.text, List.append_assoc] at text
        have skipped : before.findSome?
            (fun item => item.2.defaultExpression) = none := by
          rw [List.findSome?_eq_none_iff]
          intro item member
          exact defaultExpression_eq_none (notBefore item member)
        rw [defaultText, text,
          Expression.exec_append defaultClause isPlain.first read,
          Option.map_some, isExpression, ColumnDefinition.defaultExpression,
          splits, List.findSome?_append, skipped]
        rfl
    | _ => cases isKind
  · have unread : defaultClause.exec definition.text = none := by
      rw [← Option.not_isSome_iff_eq_none]
      exact fun found => declared (plain.default found)
    have undeclared : definition.defaultExpression = none := by
      rw [ColumnDefinition.defaultExpression, List.findSome?_eq_none_iff]
      intro item member
      exact defaultExpression_eq_none
        fun same => declared ⟨item, member, same⟩
    rw [defaultText, unread, undeclared]
    rfl

end Plain

/-! ## The check -/

theorem read_check {front behind : JsString} {word : Keyword (js "check")}
    {blank : Blank} {expression : Enclosed}
    (plain : PlainCheck front word blank expression behind) :
    ∃ reading, checkClause.read (front.reverse,
        (Clause.check word blank expression).text ++ behind) = some reading ∧
      group 3 reading = expression.text := by
  have onClose := readPieces_closeParen (expression.text.reverse ++
    (40 :: (blank.text.reverse ++ (word.text.reverse ++ front.reverse)))) behind
  have longer : ∀ more others, 41 :: behind = more ++ others → more ≠ [] →
      (∀ unit ∈ more, isAnyUnit unit = true) →
        readPieces (fun _ => true) [closeParen] (after
          (40 :: (blank.text.reverse ++ (word.text.reverse ++ front.reverse)))
          (expression.text ++ more) others) = none := by
    intro more others splits filled _
    obtain ⟨unit, more, rfl⟩ := List.exists_cons_of_ne_nil filled
    obtain ⟨_, isBehind⟩ := List.cons.inj splits
    refine readPieces_closeParen_eq_none fun next rest isNext same => ?_
    apply plain.ends
    rw [isBehind, isNext, same]
    exact List.mem_append_right _ List.mem_cons_self
  have onExpression := readPieces_plus expression.filled (fun _ _ => rfl)
    longer onClose
  have onOpen := readPieces_openParen onExpression
  have onBlank := readPieces_blank blank rfl onOpen
  have onWord := readPieces_keyword word onBlank
  have shape : (Clause.check word blank expression).text ++ behind =
      word.text ++
        (blank.text ++ (40 :: (expression.text ++ 41 :: behind))) := by
    simp only [Clause.text, List.append_assoc, List.cons_append,
      List.nil_append]
  rw [shape]
  exact ⟨_, onWord, rfl⟩

/-! ## The reference -/

theorem mem_takeWhile_of_append {test : UInt16 → Bool} {more others : JsString}
    {next : UInt16} (allPass : ∀ unit ∈ more, test unit = true)
    (passes : test next = true) :
    next ∈ (more ++ next :: others).takeWhile test := by
  rw [List.takeWhile_append_of_pos allPass, List.takeWhile_cons, passes]
  exact List.mem_append_right _ List.mem_cons_self

theorem Reference.inner_ne_nil (reference : Reference) :
    reference.inner ≠ [] := by
  intro empty
  rw [Reference.inner, List.append_eq_nil_iff,
    List.append_eq_nil_iff] at empty
  exact reference.column.tight.ne_nil empty.1.2

theorem read_reference {front behind : JsString} {reference : Reference}
    (plain : PlainReference front reference behind) :
    ∃ reading, referencesClause.read (front.reverse,
        (Clause.references reference).text ++ behind) = some reading ∧
      group 2 reading = reference.table.text ∧
      group 5 reading = reference.inner := by
  have onClose := readPieces_closeParen (reference.inner.reverse ++
    (40 :: (reference.blank.text.reverse ++
      (reference.table.text.reverse ++ (reference.gap.text.reverse ++
        (reference.word.text.reverse ++ front.reverse))))))
    (rowText ReferenceAction.text reference.actions ++ behind)
  have longer : ∀ more others,
      41 :: (rowText ReferenceAction.text reference.actions ++ behind) =
        more ++ others → more ≠ [] →
      (∀ unit ∈ more, isPoint unit = true) →
        readPieces (fun _ => true) [closeParen] (after
          (40 :: (reference.blank.text.reverse ++
            (reference.table.text.reverse ++ (reference.gap.text.reverse ++
              (reference.word.text.reverse ++ front.reverse)))))
          (reference.inner ++ more) others) = none := by
    intro more others splits filled morePass
    obtain ⟨unit, more, rfl⟩ := List.exists_cons_of_ne_nil filled
    obtain ⟨_, isBehind⟩ := List.cons.inj splits
    refine readPieces_closeParen_eq_none fun next rest isNext same => ?_
    apply plain.ends
    rw [isBehind, isNext, same]
    exact mem_takeWhile_of_append
      (fun unit member => morePass unit (List.mem_cons_of_mem _ member)) rfl
  have onInner := readPieces_plus reference.inner_ne_nil plain.oneLine longer
    onClose
  have onOpen := readPieces_openParen onInner
  have onBlank := readPieces_blank reference.blank rfl onOpen
  have onTable := readPieces_plus_whole reference.table.tight.ne_nil
    plain.table (reference.blank.head_openParen isTableUnit_of_isSpace rfl _)
    onBlank
  have onGap := readPieces_gap reference.gap
    (reference.table.tight.head_append _) onTable
  have onWord := readPieces_keyword reference.word onGap
  have shape : (Clause.references reference).text ++ behind =
      reference.word.text ++ (reference.gap.text ++ (reference.table.text ++
        (reference.blank.text ++ 40 :: (reference.inner ++
          41 :: (rowText ReferenceAction.text reference.actions ++
            behind))))) := by
    simp only [Clause.text, Reference.head, List.append_assoc,
      List.cons_append, List.nil_append]
  rw [shape]
  exact ⟨_, onWord, rfl, rfl⟩

/-- The one column in the parentheses. -/
theorem parseColumnList_inner (platform : SchemaPlatform)
    (reference : Reference) :
    parseColumnList platform reference.inner =
      [normalizeListEntry platform reference.column.text] := by
  have balanced : Balanced csvMarks false reference.inner :=
    ((reference.lead.balanced false).append reference.column.balanced).append
      (reference.trail.balanced false)
  have split : csvMarks.split reference.inner = [reference.inner] := by
    have joined := split_joined (List.forall_mem_singleton.mpr balanced)
    have only : [csvMarks.separator].intercalate [reference.inner] =
        reference.inner := by
      simp [List.intercalate]
    rwa [only] at joined
  have trimmed : trim reference.inner = reference.column.text := by
    rw [Reference.inner, List.append_assoc]
    exact trim_padded reference.lead.blank reference.column.tight
      reference.trail.blank
  rw [parseColumnList, splitTopLevelCsv_eq, split, List.flatMap_singleton,
    keptPart_of_trim reference.column.tight.ne_nil trimmed, List.map_singleton]

/-! ## Actions -/

theorem lowerCase_append (first second : JsString) :
    lowerCase (first ++ second) = lowerCase first ++ lowerCase second :=
  List.map_append

theorem ReferenceEvent.words_eq (event : ReferenceEvent) :
    event.words = js "on" ++ ([32] ++ event.word) := by
  cases event <;> decide

theorem read_action {front behind : JsString} {action : ReferenceAction}
    (plain : PlainAction front action behind) :
    ∃ reading, (actionClause action.event.words).read (front.reverse,
        action.text ++ behind) = some reading ∧
      trim (group 2 reading) = action.effect.text := by
  have spelled : lowerCase (action.onWord.text ++
      ([32] ++ action.eventWord.text)) = action.event.words := by
    rw [lowerCase_append, lowerCase_append, action.onWord.reads,
      action.eventWord.reads, action.event.words_eq]
    rfl
  have allPass : ∀ unit ∈ action.effect.text ++
      behind.takeWhile isActionUnit, isActionUnit unit = true := by
    intro unit member
    rcases List.mem_append.mp member with inEffect | inRun
    · exact plain.effect unit inEffect
    · exact List.all_eq_true.mp List.all_takeWhile unit inRun
  have filled : action.effect.text ++ behind.takeWhile isActionUnit ≠ [] := by
    intro empty
    exact action.effect.tight.ne_nil (List.append_eq_nil_iff.mp empty).1
  have stops : (behind.dropWhile isActionUnit).head?.all
      (fun unit => !isActionUnit unit) = true := by
    cases isRest : behind.dropWhile isActionUnit with
    | nil =>
        rfl
    | cons unit rest =>
        have fails := List.head?_dropWhile_not isActionUnit behind
        rw [isRest] at fails
        simpa using fails
  have stop : readPieces (fun _ => true) [] (after
      (action.effectGap.text.reverse ++ ((action.onWord.text ++
        ([32] ++ action.eventWord.text)).reverse ++ front.reverse))
      (action.effect.text ++ behind.takeWhile isActionUnit)
      (behind.dropWhile isActionUnit)) = some ⟨[], _⟩ :=
    readPieces_nil rfl
  have onEffect := readPieces_plus_whole filled allPass stops stop
  have effectStarts : ((action.effect.text ++
      behind.takeWhile isActionUnit) ++
        behind.dropWhile isActionUnit).head?.all
          (fun unit => !isSpace unit) = true := by
    rw [List.append_assoc]
    exact action.effect.tight.head_append _
  have onGap := readPieces_gap action.effectGap effectStarts onEffect
  have onWords := readPieces_cons [] []
    (ends_caseless spelled front.reverse _) (List.forall_mem_nil _) onGap
  have shape : action.text ++ behind = (action.onWord.text ++
      ([32] ++ action.eventWord.text)) ++ (action.effectGap.text ++
        ((action.effect.text ++ behind.takeWhile isActionUnit) ++
          behind.dropWhile isActionUnit)) := by
    rw [ReferenceAction.text, plain.spelled]
    simp only [List.append_assoc, List.takeWhile_append_dropWhile]
  rw [shape]
  refine ⟨_, onWords, ?_⟩
  have nothing : ∀ unit ∈ ([] : JsString), isSpace unit = true :=
    List.forall_mem_nil _
  have trimmed := trim_padded nothing action.effect.tight plain.ends
  rwa [List.nil_append] at trimmed

/-- The first action for an event, with none for it in front. -/
theorem exists_action_of_effectOf {reference : Reference}
    {event : ReferenceEvent} {effect : JsString}
    (isEffect : reference.effectOf event = some effect) :
    ∃ before gap action after,
      reference.actions = before ++ (gap, action) :: after ∧
        (∀ earlier ∈ before, earlier.2.event ≠ event) ∧
        action.event = event ∧ action.effect.text = effect := by
  obtain ⟨before, ⟨gap, action⟩, after, splits, found, skipped⟩ :=
    List.findSome?_eq_some_iff.mp isEffect
  rw [Option.ite_none_right_eq_some] at found
  refine ⟨before, gap, action, after, splits, ?_, found.1,
    Option.some.inj found.2⟩
  intro earlier member same
  have unskipped := skipped earlier member
  rw [if_pos same] at unskipped
  cases unskipped

theorem referenceAction_eq {front behind text : JsString}
    {reference : Reference} (plain : PlainReference front reference behind)
    (isText : text =
      front ++ ((Clause.references reference).text ++ behind))
    (event : ReferenceEvent) :
    referenceAction event.words text = reference.effectOf event := by
  cases isEffect : reference.effectOf event with
  | none =>
      have unread : (actionClause event.words).exec text = none := by
        rw [← Option.not_isSome_iff_eq_none]
        intro found
        rw [isText] at found
        have declared := plain.declared event found
        rw [isEffect] at declared
        cases declared
      rw [referenceAction, unread]
      rfl
  | some effect =>
      obtain ⟨before, gap, action, after, splits, isFirst, rfl, rfl⟩ :=
        exists_action_of_effectOf isEffect
      have isPlain := plain.actions before gap action after splits isFirst
      obtain ⟨reading, read, isTrimmed⟩ := read_action isPlain
      have shape : text =
          (front ++ (reference.head ++
            (rowText ReferenceAction.text before ++ gap.text))) ++
            (action.text ++ (rowText ReferenceAction.text after ++
              behind)) := by
        rw [isText, Clause.text, splits]
        simp only [rowText, List.flatMap_append, List.flatMap_cons,
          List.append_assoc]
      rw [referenceAction, shape,
        Expression.exec_append _ isPlain.first read, Option.map_some,
        isTrimmed]

/-! ## The constraints -/

section Plain

variable {platform : SchemaPlatform} {definition : ColumnDefinition}
  {before after : List (Gap × Clause)} {gap : Gap} {clause : Clause}

theorem constraintsOf_of_split (plain : PlainlyWritten platform definition)
    (splits : definition.clauses = before ++ (gap, clause) :: after)
    (isOnce : clause.kind ≠ .notNull ∧ clause.kind ≠ .null)
    (columnName : JsString) :
    definition.constraintsOf platform columnName clause.kind =
      (clause.constraint platform columnName).toList := by
  obtain ⟨notBefore, notAfter⟩ := only_of_once plain splits isOnce
  have nothing : ∀ items : List (Gap × Clause),
      (∀ item ∈ items, item.2.kind ≠ clause.kind) →
        items.filterMap (fun item =>
          if item.2.kind = clause.kind then
            item.2.constraint platform columnName
          else none) = [] := by
    intro items others
    rw [List.filterMap_eq_nil_iff]
    intro item member
    exact if_neg (others item member)
  rw [ColumnDefinition.constraintsOf, splits, List.filterMap_append,
    List.filterMap_cons, if_pos rfl, nothing before notBefore,
    nothing after notAfter]
  cases clause.constraint platform columnName <;> rfl

theorem constraintsOf_of_not_declares {kind : ClauseKind}
    (undeclared : ¬definition.declares kind) (columnName : JsString) :
    definition.constraintsOf platform columnName kind = [] := by
  rw [ColumnDefinition.constraintsOf, List.filterMap_eq_nil_iff]
  intro item member
  exact if_neg fun same => undeclared ⟨item, member, same⟩

variable (columnName : JsString)

/-- A constraint that depends on the presence of its clause alone. -/
theorem constraintsOf_of_found_iff {kind : ClauseKind} {found : Bool}
    {constraint : ConstraintMetadata}
    (plain : PlainlyWritten platform definition)
    (isFound : found = true ↔ definition.declares kind)
    (isOnce : kind ≠ .notNull ∧ kind ≠ .null)
    (declaredBy : ∀ clause : Clause, clause.kind = kind →
      clause.constraint platform columnName = some constraint) :
    (if found = true then some constraint else none).toList =
      definition.constraintsOf platform columnName kind := by
  by_cases declared : definition.declares kind
  · obtain ⟨before, gap, clause, after, splits, rfl⟩ :=
      ColumnDefinition.exists_split_of_declares declared
    rw [if_pos (isFound.mpr declared),
      constraintsOf_of_split plain splits isOnce, declaredBy clause rfl]
  · rw [if_neg (fun isPresent => declared (isFound.mp isPresent)),
      constraintsOf_of_not_declares declared]
    rfl

theorem inlinePrimaryKey_eq (plain : PlainlyWritten platform definition) :
    (inlinePrimaryKey platform columnName definition.text).toList =
      definition.constraintsOf platform columnName .primaryKey := by
  refine constraintsOf_of_found_iff columnName plain
    (primaryKey_found_iff plain)
    ⟨ClauseKind.noConfusion, ClauseKind.noConfusion⟩ fun clause isKind => ?_
  cases clause with
  | primaryKey word wordGap keyWord => rfl
  | _ => cases isKind

theorem inlineUnique_eq (plain : PlainlyWritten platform definition) :
    (inlineUnique platform columnName definition.text).toList =
      definition.constraintsOf platform columnName .unique := by
  refine constraintsOf_of_found_iff columnName plain (unique_found_iff plain)
    ⟨ClauseKind.noConfusion, ClauseKind.noConfusion⟩ fun clause isKind => ?_
  cases clause with
  | unique word => rfl
  | _ => cases isKind

theorem inlineForeignKey_eq (plain : PlainlyWritten platform definition) :
    (inlineForeignKey platform columnName definition.text).toList =
      definition.constraintsOf platform columnName .references := by
  by_cases declared : definition.declares .references
  · obtain ⟨before, gap, clause, after, splits, isKind⟩ :=
      ColumnDefinition.exists_split_of_declares declared
    cases clause with
    | references reference =>
        have isPlain := plain.referred before gap reference after splits
        have text := ColumnDefinition.text_eq splits
        obtain ⟨reading, read, isTable, isInner⟩ := read_reference isPlain
        have found : referencesClause.exec definition.text = some reading := by
          rw [text]
          exact Expression.exec_append _ isPlain.first read
        have onDelete : referenceAction (js "on delete") definition.text =
            reference.effectOf .delete :=
          referenceAction_eq isPlain text .delete
        have onUpdate : referenceAction (js "on update") definition.text =
            reference.effectOf .update :=
          referenceAction_eq isPlain text .update
        have declaredHere := constraintsOf_of_split plain splits
          ⟨ClauseKind.noConfusion, ClauseKind.noConfusion⟩ columnName
        rw [Clause.kind] at declaredHere
        rw [inlineForeignKey, found, declaredHere, Option.map_some, isTable,
          isInner, parseColumnList_inner, onDelete, onUpdate]
        rfl
    | _ => cases isKind
  · have unread : referencesClause.exec definition.text = none := by
      rw [← Option.not_isSome_iff_eq_none]
      exact fun found => declared (plain.references found)
    rw [inlineForeignKey, unread, constraintsOf_of_not_declares declared]
    rfl

theorem inlineCheck_eq (plain : PlainlyWritten platform definition) :
    (inlineCheck definition.text).toList =
      definition.constraintsOf platform columnName .check := by
  by_cases declared : definition.declares .check
  · obtain ⟨before, gap, clause, after, splits, isKind⟩ :=
      ColumnDefinition.exists_split_of_declares declared
    cases clause with
    | check word blank expression =>
        have isPlain := plain.checked before gap word blank expression after
          splits
        have text := ColumnDefinition.text_eq splits
        obtain ⟨reading, read, isExpression⟩ := read_check isPlain
        have found : checkClause.exec definition.text = some reading := by
          rw [text]
          exact Expression.exec_append _ isPlain.first read
        have declaredHere := constraintsOf_of_split plain splits
          ⟨ClauseKind.noConfusion, ClauseKind.noConfusion⟩ columnName
        rw [Clause.kind] at declaredHere
        rw [inlineCheck, found, declaredHere, Option.map_some, isExpression]
        rfl
    | _ => cases isKind
  · have unread : checkClause.exec definition.text = none := by
      rw [← Option.not_isSome_iff_eq_none]
      exact fun found => declared (plain.check found)
    rw [inlineCheck, unread, constraintsOf_of_not_declares declared]
    rfl

/-- The declared constraints, the kinds in the order of the parser. -/
theorem inlineConstraints_eq (plain : PlainlyWritten platform definition) :
    inlineConstraints platform columnName definition.text =
      definition.constraints platform columnName := by
  rw [inlineConstraints, inlinePrimaryKey_eq columnName plain,
    inlineUnique_eq columnName plain, inlineForeignKey_eq columnName plain,
    inlineCheck_eq columnName plain]
  rfl

end Plain

end BidayaxExecutive.Reconciliation.ColumnDefinitions
