import BidayaxExecutive.Receptionist.RedactionPolicy

/-!
# What redaction leaves

No word of a pattern can overlap a token, so neither a later pass nor the cut
brings back what a pass has removed.
-/

namespace BidayaxExecutive.Receptionist

open BidayaxExecutive.Runtime JsString
open BidayaxExecutive.Library.Backtracking
open BidayaxExecutive.Library.Backtracking.Regex

/-! ## Brackets -/

/-- Brackets enclose something other than what a token starts with. -/
abbrev Bracketed (word : JsString) : Prop :=
  Enclosed 91 93 82 word

theorem bracketed_of_avoids {regex : Regex UInt16}
    (unopened : regex.avoids 91 = true) (unclosed : regex.avoids 93 = true) :
    ∀ word ∈ regex.language, Bracketed word :=
  fun word member => enclosed_of_not_mem
    (not_mem_of_avoids unopened word member)
    (not_mem_of_avoids unclosed word member)

theorem bracketed_sequence {regexes : List (Regex UInt16)}
    (each : ∀ regex ∈ regexes, ∀ word ∈ regex.language, Bracketed word) :
    ∀ word ∈ (sequence regexes).language, Bracketed word := by
  induction regexes with
  | nil =>
      rintro _ rfl
      exact enclosed_of_not_mem List.not_mem_nil List.not_mem_nil
  | cons regex others ih =>
      rw [List.forall_mem_cons] at each
      intro word member
      obtain ⟨start, startMember, rest, restMember, rfl⟩ :=
        mem_sequence_cons.mp member
      exact (each.1 start startMember).append (ih each.2 rest restMember)

/-- A word spelled out in brackets does not start as a token does. -/
theorem bracketed_spelledOut {word : JsString} {first : UInt16}
    (starts : word.head? = some first) (different : first ≠ foldUnit 82)
    (unopened : (folded word).avoids 91 = true)
    (unclosed : (folded word).avoids 93 = true) :
    ∀ spelled ∈ (spelledOut word).language, Bracketed spelled := by
  have inside := bracketed_of_avoids unopened unclosed
  intro spelled member
  rw [spelledOut, mem_choice] at member
  obtain inBrackets | ⟨other, otherMember, within⟩ := member
  · obtain ⟨_, opening, _, onward, rfl⟩ := mem_sequence_cons.mp inBrackets
    obtain ⟨part, partMember, _, closing, rfl⟩ := mem_sequence_cons.mp onward
    have foldsTo := mem_folded.mp partMember
    cases part with
    | nil =>
        rw [← foldsTo] at starts
        cases starts
    | cons head inner =>
        have folds : foldUnit head = first := by
          rw [← foldsTo] at starts
          exact Option.some.inj starts
        have notToken : head ≠ 82 := by
          rintro rfl
          exact different folds.symm
        rw [mem_literal.mp opening, mem_literal.mp closing]
        exact enclosed_bracketed notToken (by decide)
          (not_mem_of_avoids unopened _ partMember)
  · simp only [List.mem_cons, List.not_mem_nil, or_false] at otherMember
    cases otherMember with
    | inl round =>
        rw [round] at within
        refine bracketed_sequence ?_ spelled within
        simp only [List.forall_mem_cons, List.not_mem_nil, false_implies,
          implies_true, and_true]
        exact ⟨bracketed_of_avoids (by decide) (by decide), inside,
          bracketed_of_avoids (by decide) (by decide)⟩
    | inr spaced =>
        rw [spaced] at within
        refine bracketed_sequence ?_ spelled within
        simp only [List.forall_mem_cons, List.not_mem_nil, false_implies,
          implies_true, and_true]
        exact ⟨bracketed_of_avoids (by decide) (by decide), inside,
          bracketed_of_avoids (by decide) (by decide)⟩

theorem bracketed_addressPattern {mark dot : Regex UInt16}
    (markBracketed : ∀ word ∈ mark.language, Bracketed word)
    (dotBracketed : ∀ word ∈ dot.language, Bracketed word) :
    ∀ word ∈ (addressPattern mark dot).language, Bracketed word := by
  have plain : ∀ regex ∈ [localPart, spaces, domainPart, topLevel],
      ∀ word ∈ regex.language, Bracketed word := by
    simp only [List.forall_mem_cons, List.not_mem_nil, false_implies,
      implies_true, and_true]
    exact ⟨bracketed_of_avoids (by decide) (by decide),
      bracketed_of_avoids (by decide) (by decide),
      bracketed_of_avoids (by decide) (by decide),
      bracketed_of_avoids (by decide) (by decide)⟩
  simp only [List.forall_mem_cons, List.not_mem_nil, false_implies,
    implies_true, and_true] at plain
  obtain ⟨atLocal, atSpaces, atDomain, atTop⟩ := plain
  apply bracketed_sequence
  simp only [List.forall_mem_cons, List.not_mem_nil, false_implies,
    implies_true, and_true]
  exact ⟨atLocal, atSpaces, markBracketed, atSpaces, atDomain, atSpaces,
    dotBracketed, atSpaces, atTop⟩

/-! ## Symbols that are in no token -/

/-- A symbol outside of the letters of a token. -/
def isForeign (unit : UInt16) : Bool :=
  isSpace unit || isDigitUnit unit || anyOf (js "[(@:") unit ||
    unit == 0xFF20

def HasForeign (regex : Regex UInt16) : Prop :=
  ∀ word ∈ regex.language, ∃ unit ∈ word, isForeign unit = true

theorem hasForeign_sequence_head {regex : Regex UInt16}
    {others : List (Regex UInt16)} (foreign : HasForeign regex) :
    HasForeign (sequence (regex :: others)) := by
  intro word member
  obtain ⟨start, startMember, rest, _, rfl⟩ := mem_sequence_cons.mp member
  obtain ⟨unit, unitMember, isOne⟩ := foreign start startMember
  exact ⟨unit, List.mem_append_left rest unitMember, isOne⟩

theorem hasForeign_sequence_tail {regex : Regex UInt16}
    {others : List (Regex UInt16)} (foreign : HasForeign (sequence others)) :
    HasForeign (sequence (regex :: others)) := by
  intro word member
  obtain ⟨start, _, rest, restMember, rfl⟩ := mem_sequence_cons.mp member
  obtain ⟨unit, unitMember, isOne⟩ := foreign rest restMember
  exact ⟨unit, List.mem_append_right start unitMember, isOne⟩

theorem hasForeign_one {test : UInt16 → Bool}
    (foreign : ∀ unit, test unit = true → isForeign unit = true) :
    HasForeign (one test) := by
  rintro _ ⟨unit, passes, rfl⟩
  exact ⟨unit, List.mem_singleton_self unit, foreign unit passes⟩

theorem hasForeign_literal {text : JsString}
    (foreign : text.any isForeign = true) : HasForeign (literal text) := by
  intro word member
  rw [mem_literal.mp member]
  exact List.any_eq_true.mp foreign

theorem hasForeign_spelledOut (word : JsString) :
    HasForeign (spelledOut word) := by
  intro spelled member
  rw [spelledOut, mem_choice] at member
  obtain inBrackets | ⟨other, otherMember, within⟩ := member
  · exact hasForeign_sequence_head (hasForeign_literal (by decide)) spelled
      inBrackets
  · simp only [List.mem_cons, List.not_mem_nil, or_false] at otherMember
    cases otherMember with
    | inl round =>
        rw [round] at within
        exact hasForeign_sequence_head (hasForeign_literal (by decide))
          spelled within
    | inr spaced =>
        rw [spaced] at within
        refine hasForeign_sequence_head (hasForeign_one ?_) spelled within
        intro unit isOne
        simp [isForeign, isOne]

theorem hasForeign_addressPattern {mark dot : Regex UInt16}
    (foreign : HasForeign mark) : HasForeign (addressPattern mark dot) :=
  hasForeign_sequence_tail <| hasForeign_sequence_tail <|
    hasForeign_sequence_head foreign

/-! ## Tokens block the patterns -/

def redactionTokens : List JsString :=
  [emailToken, phoneToken, linkToken]

theorem blocks_token {token : JsString} (isToken : token ∈ redactionTokens)
    {regex : Regex UInt16}
    (bracketed : ∀ word ∈ regex.language, Bracketed word)
    (foreign : HasForeign regex) : Blocks token regex.language := by
  have ofInner : ∀ inner : JsString,
      (82 :: inner).all (fun unit => !isForeign unit) = true →
      Blocks (91 :: (82 :: inner) ++ [93]) regex.language := by
    intro inner plain
    rw [List.all_eq_true] at plain
    apply blocks_bracketed
    · intro opening
      exact absurd (plain 91 opening) (by decide)
    · exact bracketed
    · intro word member
      obtain ⟨unit, unitMember, isOne⟩ := foreign word member
      refine ⟨unit, unitMember, ?_⟩
      intro inToken
      have notOne := plain unit inToken
      rw [isOne] at notOne
      cases notOne
  simp only [redactionTokens, List.mem_cons, List.not_mem_nil, or_false]
    at isToken
  rcases isToken with rfl | rfl | rfl
  · exact ofInner (js "EDACTED_EMAIL") (by decide)
  · exact ofInner (js "EDACTED_PHONE") (by decide)
  · exact ofInner (js "EDACTED_LINK") (by decide)

theorem nil_not_mem_of_hasForeign {regex : Regex UInt16}
    (foreign : HasForeign regex) : [] ∉ regex.language := by
  intro member
  obtain ⟨unit, absent, _⟩ := foreign [] member
  cases absent

/-- A pattern that a pass removes for good. -/
structure Removable (regex : Regex UInt16) : Prop where
  edgeFree : regex.EdgeFree
  bracketed : ∀ word ∈ regex.language, Bracketed word
  foreign : HasForeign regex

/-- What is free of a removable pattern stays so when other patterns are
replaced. -/
theorem Removable.free_applyPatterns {regex : Regex UInt16}
    (removable : Removable regex) {token : JsString}
    (isToken : token ∈ redactionTokens) {text : JsString}
    (free : Free regex.language text) {patterns : List (Regex UInt16)}
    (foreign : ∀ pattern ∈ patterns, HasForeign pattern) :
    Free regex.language (applyPatterns text patterns token) := by
  induction patterns generalizing text with
  | nil =>
      exact free
  | cons pattern rest ih =>
      rw [List.forall_mem_cons] at foreign
      exact ih (free.replaceAll (nil_not_mem_of_hasForeign foreign.1)
        (blocks_token isToken removable.bracketed removable.foreign)) foreign.2

/-- The pass of a removable pattern removes it. -/
theorem Removable.free_of_mem {regex : Regex UInt16}
    (removable : Removable regex) {token : JsString}
    (isToken : token ∈ redactionTokens) (text : JsString)
    {patterns : List (Regex UInt16)} (listed : regex ∈ patterns)
    (foreign : ∀ pattern ∈ patterns, HasForeign pattern) :
    Free regex.language (applyPatterns text patterns token) := by
  obtain ⟨before, later, rfl⟩ := List.append_of_mem listed
  rw [applyPatterns, List.foldl_append, List.foldl_cons]
  refine removable.free_applyPatterns isToken (free_replaceAll
    removable.edgeFree (nil_not_mem_of_hasForeign removable.foreign)
    (blocks_token isToken removable.bracketed
      removable.foreign).blocksMatches _) ?_
  intro pattern member
  exact foreign pattern
    (List.mem_append_right _ (List.mem_cons_of_mem _ member))

theorem removable_email : ∀ regex ∈ emailPatterns, Removable regex := by
  simp only [emailPatterns, List.forall_mem_cons, List.not_mem_nil,
    false_implies, implies_true, and_true]
  refine ⟨⟨by decide, ?_, ?_⟩, ⟨by decide, ?_, ?_⟩, ⟨by decide, ?_, ?_⟩⟩
  · exact bracketed_addressPattern
      (bracketed_of_avoids (by decide) (by decide))
      (bracketed_of_avoids (by decide) (by decide))
  · exact hasForeign_addressPattern (hasForeign_literal (by decide))
  · exact bracketed_addressPattern
      (bracketed_spelledOut rfl (by decide) (by decide) (by decide))
      (bracketed_spelledOut rfl (by decide) (by decide) (by decide))
  · exact hasForeign_addressPattern (hasForeign_spelledOut _)
  · exact bracketed_addressPattern
      (bracketed_of_avoids (by decide) (by decide))
      (bracketed_of_avoids (by decide) (by decide))
  · refine hasForeign_addressPattern (hasForeign_one ?_)
    intro unit isOne
    simp [isForeign, beq_iff_eq.mp isOne]

/-- `[+＋]?\d[\d\s().-]{7,}\d`. -/
def spacedPhonePattern : Regex UInt16 :=
  sequence [optional (one fun unit => unit == 43 || unit == 0xFF0B),
    one isDigitUnit,
    times 7 (one fun unit => isDigitUnit unit || isSpace unit ||
        anyOf (js "().-") unit)
      (star true (one fun unit => isDigitUnit unit || isSpace unit ||
        anyOf (js "().-") unit)),
    one isDigitUnit]

theorem removable_spacedPhonePattern : Removable spacedPhonePattern where
  edgeFree := by decide
  bracketed := bracketed_of_avoids (by decide) (by decide)
  foreign := hasForeign_sequence_tail <| hasForeign_sequence_head <|
    hasForeign_one fun unit isOne => by simp [isForeign, isOne]

/-! ## Links -/

theorem hasForeign_linkPattern : HasForeign linkPattern :=
  hasForeign_sequence_tail <| hasForeign_sequence_tail <|
    hasForeign_sequence_head <| hasForeign_literal (by decide)

/-- `https?:\/\/`. -/
def linkHead : Regex UInt16 :=
  sequence [folded (js "http"), optional (folded (js "s")),
    literal (js "://")]

theorem hasForeign_linkHead : HasForeign linkHead :=
  hasForeign_sequence_tail <| hasForeign_sequence_tail <|
    hasForeign_sequence_head <| hasForeign_literal (by decide)

theorem mem_linkPattern {word : JsString} :
    word ∈ linkPattern.language ↔
      ∃ head ∈ linkHead.language, ∃ unit more, isSpace unit = false ∧
        more ∈ (star true (one fun unit => !isSpace unit)).language ∧
        word = head ++ unit :: more := by
  constructor
  · intro member
    obtain ⟨scheme, schemeMember, _, afterScheme, rfl⟩ :=
      mem_sequence_cons.mp member
    obtain ⟨secure, secureMember, _, afterSecure, rfl⟩ :=
      mem_sequence_cons.mp afterScheme
    obtain ⟨slashes, slashesMember, _, text, rfl⟩ :=
      mem_sequence_cons.mp afterSecure
    obtain ⟨_, ⟨unit, visible, rfl⟩, more, moreMember, rfl⟩ := mem_seq.mp text
    refine ⟨scheme ++ (secure ++ slashes), ?_, unit, more, ?_, moreMember,
      by simp⟩
    · exact mem_sequence_cons.mpr ⟨scheme, schemeMember, secure ++ slashes,
        mem_sequence_cons.mpr ⟨secure, secureMember, slashes, slashesMember,
          rfl⟩, rfl⟩
    · simpa using visible
  · rintro ⟨head, headMember, unit, more, visible, moreMember, rfl⟩
    obtain ⟨scheme, schemeMember, _, onward, rfl⟩ :=
      mem_sequence_cons.mp headMember
    obtain ⟨secure, secureMember, slashes, slashesMember, rfl⟩ :=
      mem_sequence_cons.mp onward
    refine mem_sequence_cons.mpr ⟨scheme, schemeMember,
      secure ++ (slashes ++ unit :: more), ?_, by simp⟩
    refine mem_sequence_cons.mpr ⟨secure, secureMember,
      slashes ++ unit :: more, ?_, rfl⟩
    refine mem_sequence_cons.mpr ⟨slashes, slashesMember, unit :: more, ?_,
      rfl⟩
    exact mem_seq.mpr ⟨[unit], ⟨unit, by simp [visible], rfl⟩, more,
      moreMember, rfl⟩

theorem link_of_head {head : JsString} (headMember : head ∈ linkHead.language)
    {unit : UInt16} (visible : isSpace unit = false) :
    head ++ [unit] ∈ linkPattern.language :=
  mem_linkPattern.mpr ⟨head, headMember, unit, [], visible, nil_mem_star, rfl⟩

/-- A link starts with a letter. -/
theorem exists_visible_start {word : JsString}
    (member : word ∈ linkPattern.language) :
    ∃ unit rest, word = unit :: rest ∧ isSpace unit = false := by
  obtain ⟨scheme, schemeMember, rest, _, rfl⟩ := mem_sequence_cons.mp member
  obtain ⟨unit, others, rfl, foldsTo, _⟩ :=
    List.map_eq_cons_iff.mp (mem_folded.mp schemeMember)
  refine ⟨unit, others ++ rest, rfl, ?_⟩
  rw [Bool.eq_false_iff]
  intro blank
  have noLetter := isLetterUnit_eq_false_of_isSpace blank
  rw [isLetterUnit, foldsTo] at noLetter
  cases noLetter

theorem eq_of_append_singleton {head left right : JsString}
    {unit mark : UInt16} (absent : mark ∉ head)
    (splits : head ++ [unit] = left ++ mark :: right) : left = head := by
  obtain ⟨middle, rfl, later⟩ | ⟨middle, rfl, later⟩ :=
    List.append_eq_append_iff.mp splits
  · cases middle with
    | nil =>
        simp
    | cons first middle =>
        simp at later
  · cases middle with
    | nil =>
        simp
    | cons first middle =>
        obtain ⟨rfl, _⟩ := List.cons.inj later
        exact absurd (List.mem_append_right _ List.mem_cons_self) absent

theorem blocksMatches_link :
    BlocksMatches linkToken linkPattern.language := by
  intro before later word member inside
  obtain ⟨head, headMember, unit, more, visible, _, rfl⟩ :=
    mem_linkPattern.mp member
  have unopened : (91 : UInt16) ∉ head :=
    not_mem_of_avoids (by decide) head headMember
  have unclosed : (93 : UInt16) ∉ head :=
    not_mem_of_avoids (by decide) head headMember
  have notInToken : ¬head <:+: js "REDACTED_LINK" := by
    obtain ⟨colon, colonMember, isOne⟩ : ∃ unit ∈ head,
        isForeign unit = true :=
      hasForeign_linkHead head headMember
    intro within
    have plain : (js "REDACTED_LINK").all (fun unit => !isForeign unit) =
        true := by
      decide
    have notOne := List.all_eq_true.mp plain colon (within.subset colonMember)
    rw [isOne] at notOne
    cases notOne
  have minimal := link_of_head headMember visible
  have minimalInside : head ++ [unit] <:+:
      before ++ 91 :: (js "REDACTED_LINK" ++ 93 :: later) := by
    obtain ⟨start, ending, shape⟩ := inside
    refine ⟨start, more ++ ending, ?_⟩
    have token : linkToken = 91 :: (js "REDACTED_LINK" ++ [93]) := rfl
    rw [token] at shape
    simpa using shape
  obtain atLeft | afterOpening | ⟨left, right, splits, isSuffix, _⟩ :=
    infix_append_cons minimalInside
  · exact Or.inl ⟨_, minimal, atLeft⟩
  · obtain inToken | atRight | ⟨left, right, splits, isSuffix, _⟩ :=
      infix_append_cons afterOpening
    · exact absurd ((List.prefix_append head [unit]).isInfix.trans inToken)
        notInToken
    · exact Or.inr (Or.inl ⟨_, minimal, atRight⟩)
    · rw [eq_of_append_singleton unclosed splits] at isSuffix
      exact absurd isSuffix.isInfix notInToken
  · rw [eq_of_append_singleton unopened splits] at isSuffix
    refine Or.inr (Or.inr ⟨head, ?_, isSuffix, ?_⟩)
    · rintro rfl
      exact notInToken List.nil_infix
    · intro matched matchedMember
      obtain ⟨first, rest, rfl, firstVisible⟩ :=
        exists_visible_start matchedMember
      exact ⟨head ++ [first], link_of_head headMember firstVisible,
        ⟨rest, by simp⟩⟩

/-! ## Phone numbers -/

/-- `[\d\s().-]`. -/
def isPhoneUnit (unit : UInt16) : Bool :=
  isDigitUnit unit || isSpace unit || anyOf (js "().-") unit

theorem mem_times_one {test : UInt16 → Bool} {count : Nat} {word : JsString}
    (passes : ∀ unit ∈ word, test unit = true) (long : count ≤ word.length) :
    word ∈ (times count (one test) (star true (one test))).language := by
  induction count generalizing word with
  | zero =>
      induction word with
      | nil =>
          exact nil_mem_star
      | cons unit rest ih =>
          rw [List.forall_mem_cons] at passes
          exact append_mem_star (mem_one.mpr ⟨unit, passes.1, rfl⟩)
            (ih passes.2 (Nat.zero_le _))
  | succ count ih =>
      cases word with
      | nil =>
          simp at long
      | cons unit rest =>
          rw [List.forall_mem_cons] at passes
          exact mem_seq.mpr ⟨[unit], ⟨unit, passes.1, rfl⟩, rest,
            ih passes.2 (Nat.le_of_succ_le_succ long), rfl⟩

/-- `\d[\s.-]*`. -/
def separatedDigit : Regex UInt16 :=
  seq (one isDigitUnit) (star true
    (one fun unit => isSpace unit || anyOf (js ".-") unit))

theorem exists_digit_of_mem_separatedDigit {word : JsString}
    (member : word ∈ separatedDigit.language) :
    ∃ digit rest, word = digit :: rest ∧ isDigitUnit digit = true ∧
      ∀ unit ∈ word, isPhoneUnit unit = true := by
  obtain ⟨_, ⟨digit, isDigit, rfl⟩, rest, restMember, rfl⟩ :=
    mem_seq.mp member
  refine ⟨digit, rest, rfl, isDigit, ?_⟩
  rw [List.singleton_append, List.forall_mem_cons]
  refine ⟨by simp [isPhoneUnit, isDigit], ?_⟩
  intro unit inside
  have separates := mem_star_one.mp restMember unit inside
  simp only [anyOf, Bool.or_eq_true, List.contains_iff_mem] at separates
  simp only [isPhoneUnit, anyOf, Bool.or_eq_true, List.contains_iff_mem]
  cases separates with
  | inl blank =>
      exact Or.inl (Or.inr blank)
  | inr mark =>
      have known : js ".-" ⊆ js "().-" := by
        decide
      exact Or.inr (known mark)

theorem exists_front_of_mem_times {count : Nat} {rest : Regex UInt16}
    {word : JsString}
    (member : word ∈ (times count separatedDigit rest).language) :
    ∃ front back, word = front ++ back ∧ back ∈ rest.language ∧
      count ≤ front.length ∧ ∀ unit ∈ front, isPhoneUnit unit = true := by
  induction count generalizing word with
  | zero =>
      exact ⟨[], word, rfl, member, Nat.le_refl 0, fun _ absent =>
        nomatch absent⟩
  | succ count ih =>
      obtain ⟨start, startMember, _, onward, rfl⟩ := mem_seq.mp member
      obtain ⟨digit, others, rfl, _, startPasses⟩ :=
        exists_digit_of_mem_separatedDigit startMember
      obtain ⟨front, back, rfl, backMember, long, frontPasses⟩ := ih onward
      refine ⟨digit :: others ++ front, back, by simp, backMember, ?_, ?_⟩
      · simp only [List.length_append, List.length_cons]
        omega
      · exact List.forall_mem_append.mpr ⟨startPasses, frontPasses⟩

/-- `\b(?:\d[\s.-]*){9,}\b`. -/
def nineDigitsPattern : Regex UInt16 :=
  sequence [edge isAsciiWordUnit,
    times 9 separatedDigit (star true separatedDigit), edge isAsciiWordUnit]

theorem phonePatterns_eq :
    phonePatterns = [spacedPhonePattern, nineDigitsPattern] :=
  rfl

/-- The first digit and the ninth with what is between them. -/
theorem exists_spacedPhone_of_nineDigits {word : JsString}
    (member : word ∈ nineDigitsPattern.language) :
    ∃ phone ∈ spacedPhonePattern.language, phone <:+: word := by
  obtain ⟨_, rfl, _, afterEdge, rfl⟩ := mem_sequence_cons.mp member
  obtain ⟨digits, digitsMember, tail, _, rfl⟩ :=
    mem_sequence_cons.mp afterEdge
  obtain ⟨first, firstMember, _, afterFirst, rfl⟩ := mem_seq.mp digitsMember
  obtain ⟨firstDigit, firstOthers, rfl, isFirst, firstPasses⟩ :=
    exists_digit_of_mem_separatedDigit firstMember
  obtain ⟨middle, _, rfl, lastMember, long, middlePasses⟩ :=
    @exists_front_of_mem_times 7
      (times 1 separatedDigit (star true separatedDigit)) _ afterFirst
  obtain ⟨last, lastOnly, rest, _, rfl⟩ := mem_seq.mp lastMember
  obtain ⟨lastDigit, lastOthers, rfl, isLast, _⟩ :=
    exists_digit_of_mem_separatedDigit lastOnly
  rw [List.forall_mem_cons] at firstPasses
  refine ⟨firstDigit :: (firstOthers ++ middle) ++ [lastDigit], ?_,
    [], lastOthers ++ rest ++ tail, by simp⟩
  have between : firstOthers ++ middle ∈
      (times 7 (one isPhoneUnit) (star true (one isPhoneUnit))).language := by
    apply mem_times_one
    · exact List.forall_mem_append.mpr ⟨firstPasses.2, middlePasses⟩
    · rw [List.length_append]
      omega
  refine mem_sequence_cons.mpr ⟨[], Or.inr rfl,
    firstDigit :: (firstOthers ++ middle) ++ [lastDigit], ?_, rfl⟩
  refine mem_sequence_cons.mpr ⟨[firstDigit], ⟨firstDigit, isFirst, rfl⟩,
    firstOthers ++ middle ++ [lastDigit], ?_, rfl⟩
  exact mem_sequence_cons.mpr ⟨firstOthers ++ middle, between, [lastDigit],
    ⟨lastDigit, isLast, rfl⟩, rfl⟩

theorem hasForeign_phonePatterns :
    ∀ pattern ∈ phonePatterns, HasForeign pattern := by
  rw [phonePatterns_eq]
  simp only [List.forall_mem_cons, List.not_mem_nil, false_implies,
    implies_true, and_true]
  refine ⟨removable_spacedPhonePattern.foreign, ?_⟩
  intro word member
  obtain ⟨phone, phoneMember, inside⟩ :=
    exists_spacedPhone_of_nineDigits member
  obtain ⟨unit, unitMember, isOne⟩ :=
    removable_spacedPhonePattern.foreign phone phoneMember
  exact ⟨unit, inside.subset unitMember, isOne⟩

theorem free_nineDigits {text : JsString}
    (free : Free spacedPhonePattern.language text) :
    Free nineDigitsPattern.language text := by
  intro word member inside
  obtain ⟨phone, phoneMember, within⟩ :=
    exists_spacedPhone_of_nineDigits member
  exact free phone phoneMember (within.trans inside)

/-! ## The cut -/

/-- The length of a preview, `NaN` where the policy has no number. -/
def previewLength (number : JsNumber) : JsNumber :=
  mathMax (.integer 0) (mathMin number (.integer 240))

/-- A bound that is a number between zero and the longest preview. -/
theorem previewLength_cases (number : JsNumber) :
    number = .nan ∧ previewLength number = .nan ∨
    number ≠ .nan ∧
      ((∃ value : Int, previewLength number = .integer value ∧ 0 ≤ value ∧
          value ≤ 240) ∨
        ∃ (value : ℚ) (text : { text : JsString // isAscii text = true }),
          previewLength number = .fraction value text ∧ 0 ≤ value ∧
            value ≤ 240) := by
  cases number with
  | nan => exact Or.inl ⟨rfl, rfl⟩
  | infinity negative =>
      refine Or.inr ⟨by simp, Or.inl ?_⟩
      cases negative with
      | false => exact ⟨240, by decide, by decide, by decide⟩
      | true => exact ⟨0, by decide, by decide, by decide⟩
  | negativeZero =>
      exact Or.inr ⟨by simp, Or.inl ⟨0, by decide, by decide, by decide⟩⟩
  | integer value =>
      refine Or.inr ⟨by simp, Or.inl ⟨max 0 (min value 240), ?_, by omega,
        by omega⟩⟩
      by_cases long : value ≤ 240
      · by_cases negative : value ≤ 0
        · simp [previewLength, mathMin, mathMax, JsNumber.lessOrEqual,
            JsNumber.toInt?, long, negative]
        · simp [previewLength, mathMin, mathMax, JsNumber.lessOrEqual,
            JsNumber.toInt?, long, negative]
          omega
      · simp [previewLength, mathMin, mathMax, JsNumber.lessOrEqual,
          JsNumber.toInt?, long]
        omega
  | fraction value text =>
      refine Or.inr ⟨by simp, ?_⟩
      by_cases long : value ≤ 240
      · by_cases negative : value ≤ 0
        · refine Or.inl ⟨0, ?_, by decide, by decide⟩
          simp [previewLength, mathMin, mathMax, JsNumber.lessOrEqual,
            JsNumber.toInt?, JsNumber.toRat?, long, negative]
        · refine Or.inr ⟨value, text, ?_,
            Rat.le_of_lt (Rat.not_le.mp negative), long⟩
          simp [previewLength, mathMin, mathMax, JsNumber.lessOrEqual,
            JsNumber.toInt?, JsNumber.toRat?, long, negative]
      · refine Or.inl ⟨240, ?_, by decide, by decide⟩
        simp [previewLength, mathMin, mathMax, JsNumber.lessOrEqual,
          JsNumber.toInt?, JsNumber.toRat?, long]

theorem sliceEnd_previewLength (number : JsNumber) {length count : Nat}
    (short : count ≤ sliceEnd (previewLength number) length) :
    count ≤ 240 ∧ (number = .nan → count = 0) ∧
      (number ≠ .nan →
        (JsNumber.integer count).lessOrEqual (previewLength number) =
          true) := by
  obtain ⟨isNan, same⟩ | ⟨isNumber, bound⟩ := previewLength_cases number
  · rw [same, sliceEnd] at short
    · exact ⟨by omega, fun _ => by omega, fun other => absurd isNan other⟩
    all_goals simp
  · obtain ⟨value, same, positive, small⟩ |
      ⟨value, text, same, positive, small⟩ := bound
    · rw [same, sliceEnd] at short
      refine ⟨by omega, fun isNan => absurd isNan isNumber, fun _ => ?_⟩
      rw [same, JsNumber.lessOrEqual_of_toInt? rfl rfl, decide_eq_true_iff]
      omega
    · rw [same, sliceEnd] at short
      have below : (count : ℚ) ≤ value := by
        have floored : (0 : Int) ≤ value.floor :=
          Rat.le_floor_iff.mpr positive
        have atFloor : (count : Int) ≤ value.floor := by
          omega
        exact Rat.le_floor_iff.mp atFloor
      refine ⟨Rat.natCast_le_natCast.mp (Rat.le_trans below small),
        fun isNan => absurd isNan isNumber, fun _ => ?_⟩
      · simp [same, JsNumber.lessOrEqual, JsNumber.toInt?, JsNumber.toRat?,
          below]

/-! ## Nothing is left -/

def residuePatterns : List (Regex UInt16) :=
  emailPatterns ++ phonePatterns ++ [linkPattern]

theorem emailToken_mem : emailToken ∈ redactionTokens := by
  decide

theorem phoneToken_mem : phoneToken ∈ redactionTokens := by
  decide

theorem linkToken_mem : linkToken ∈ redactionTokens := by
  decide

theorem edgeFree_linkPattern : linkPattern.EdgeFree := by
  decide

theorem free_linkPattern (text : JsString) :
    Free linkPattern.language (applyPatterns text [linkPattern] linkToken) := by
  rw [applyPatterns, List.foldl_cons, List.foldl_nil]
  exact free_replaceAll edgeFree_linkPattern
    (nil_not_mem_of_hasForeign hasForeign_linkPattern) blocksMatches_link text

theorem free_linkPass {regex : Regex UInt16} (removable : Removable regex)
    {text : JsString} (free : Free regex.language text) :
    Free regex.language (applyPatterns text [linkPattern] linkToken) := by
  refine removable.free_applyPatterns linkToken_mem free ?_
  intro pattern member
  rw [List.mem_singleton.mp member]
  exact hasForeign_linkPattern

/-- After the passes over addresses, phone numbers and links. -/
theorem free_passes (text : JsString) :
    ∀ regex ∈ residuePatterns, Free regex.language
      (applyPatterns (applyPatterns (applyPatterns text emailPatterns
        emailToken) phonePatterns phoneToken) [linkPattern] linkToken) := by
  intro regex member
  rw [residuePatterns, List.mem_append, List.mem_append,
    List.mem_singleton] at member
  have emailForeign : ∀ pattern ∈ emailPatterns, HasForeign pattern :=
    fun pattern listed => (removable_email pattern listed).foreign
  obtain (email | phone) | link := member
  · have removable := removable_email regex email
    exact free_linkPass removable <|
      removable.free_applyPatterns phoneToken_mem
        (removable.free_of_mem emailToken_mem text email emailForeign)
        hasForeign_phonePatterns
  · have free := free_linkPass removable_spacedPhonePattern <|
      removable_spacedPhonePattern.free_of_mem phoneToken_mem
        (applyPatterns text emailPatterns emailToken) List.mem_cons_self
        hasForeign_phonePatterns
    rw [phonePatterns_eq, List.mem_cons, List.mem_singleton] at phone
    cases phone with
    | inl spaced =>
        rw [spaced]
        exact free
    | inr nineDigits =>
        rw [nineDigits]
        exact free_nineDigits free
  · rw [link]
    exact free_linkPattern _

theorem found_eq_false_of_free {regex : Regex UInt16} {text : JsString}
    (free : Free regex.language text) : regex.found text = false := by
  rw [Bool.eq_false_iff]
  intro found
  obtain ⟨word, member, inside⟩ := exists_infix_of_found found
  exact free word member inside

/-- The preview is as long as the policy allows, and the patterns of addresses,
phone numbers and links are not found in it. -/
theorem redactRuntimeText_leavesNothing (normalize : JsString → JsString)
    (input : JsString) (policy : Option RuntimeRedactionPolicy)
    (emails : (resolveRedactionPolicy policy).redactEmails = true)
    (phoneNumbers : (resolveRedactionPolicy policy).redactPhoneNumbers = true)
    (links : (resolveRedactionPolicy policy).redactLinks = true) :
    (redactRuntimeText normalize input policy).redactedText.length ≤ 240 ∧
    ((policy.getD defaultRuntimeRedactionPolicy).transcriptPreviewMaxLength =
        .nan →
      (redactRuntimeText normalize input policy).redactedText.length = 0) ∧
    ((policy.getD defaultRuntimeRedactionPolicy).transcriptPreviewMaxLength ≠
        .nan →
      (JsNumber.integer (redactRuntimeText normalize input
        policy).redactedText.length).lessOrEqual (mathMax (.integer 0)
          (mathMin (policy.getD
            defaultRuntimeRedactionPolicy).transcriptPreviewMaxLength
            (.integer 240))) = true) ∧
    ∀ pattern ∈ emailPatterns ++ phonePatterns ++ [linkPattern],
      pattern.found
        (redactRuntimeText normalize input policy).redactedText = false := by
  obtain ⟨bound, noNumber, number⟩ := sliceEnd_previewLength
    (policy.getD defaultRuntimeRedactionPolicy).transcriptPreviewMaxLength
    (List.length_take_le
      (sliceEnd (resolveRedactionPolicy policy).transcriptPreviewMaxLength _)
      _)
  refine ⟨bound, noNumber, number, ?_⟩
  intro pattern member
  apply found_eq_false_of_free
  simp only [redactRuntimeText, redactionPass, emails, phoneNumbers, links,
    if_true]
  exact Free.of_infix (free_passes _ pattern member)
    (List.take_prefix _ _).isInfix

theorem writtenAddress_leavesNothing :
    (redactRuntimeText id
        (js "write to lina@example.com or call +1 555 0100 200")
        none).redactedText.length ≤ 240 ∧
      linkPattern.found (redactRuntimeText id
        (js "write to lina@example.com or call +1 555 0100 200")
        none).redactedText = false := by
  obtain ⟨bounded, _, _, nothing⟩ := redactRuntimeText_leavesNothing id
    (js "write to lina@example.com or call +1 555 0100 200") none rfl rfl rfl
  exact ⟨bounded, nothing linkPattern
    (List.mem_append_right _ (List.mem_singleton_self _))⟩

/-- A negative length is taken as zero, so that an empty preview is longer
than it. -/
theorem negativePreview_exceeds :
    ¬ ∀ (normalize : JsString → JsString) (input : JsString)
      (policy : Option RuntimeRedactionPolicy),
      (resolveRedactionPolicy policy).redactEmails = true →
      (resolveRedactionPolicy policy).redactPhoneNumbers = true →
      (resolveRedactionPolicy policy).redactLinks = true →
      (JsNumber.integer (redactRuntimeText normalize input
        policy).redactedText.length).lessOrEqual (mathMin (policy.getD
          defaultRuntimeRedactionPolicy).transcriptPreviewMaxLength
          (.integer 240)) = true ∧
      ∀ pattern ∈ emailPatterns ++ phonePatterns ++ [linkPattern],
        pattern.found
          (redactRuntimeText normalize input policy).redactedText = false := by
  intro claim
  have bounded := (claim id [] (some { defaultRuntimeRedactionPolicy with
    transcriptPreviewMaxLength := .integer (-1) }) rfl rfl rfl).1
  revert bounded
  decide

end BidayaxExecutive.Receptionist
