import BidayaxExecutive.Library.Backtracking

/-!
# Replacing all matches by a token

What is left of a text between the tokens contains no word of the expression
that was replaced.  A token that no word of a language can overlap keeps words
of that language from arising around it.
-/

namespace BidayaxExecutive.Library.Backtracking

variable {α : Type}

/-- `text.replace(regex, token)` with the flag `g`, from a place on.  After an
empty match the next symbol is passed. -/
def replaceFrom (regex : Regex α) (token : List α) :
    Nat → Place α → List α
  | 0, place => place.2
  | count + 1, (passed, rest) =>
      match (regex.ends (passed, rest)).head?, rest with
      | none, [] => []
      | some _, [] => token
      | none, symbol :: rest =>
          symbol :: replaceFrom regex token count (symbol :: passed, rest)
      | some ended, symbol :: rest =>
          if ended.2.length < rest.length + 1 then
            token ++ replaceFrom regex token count ended
          else
            token ++ symbol ::
              replaceFrom regex token count (symbol :: passed, rest)

def replaceAll (regex : Regex α) (token text : List α) : List α :=
  replaceFrom regex token (text.length + 1) ([], text)

/-! ## What is replaced -/

/-- Matched words are replaced by the token.  Where a symbol is kept there is
no match, so without edges no word begins there. -/
inductive Replaced (regex : Regex α) (token : List α) :
    List α → List α → Prop where
  | nil : Replaced regex token [] []
  | keep {symbol : α} {rest out : List α}
      (unmatched : regex.EdgeFree →
        ∀ word ∈ regex.language, ¬word <+: symbol :: rest)
      (onward : Replaced regex token rest out) :
      Replaced regex token (symbol :: rest) (symbol :: out)
  | swap {word rest out : List α} (member : word ∈ regex.language)
      (onward : Replaced regex token rest out) :
      Replaced regex token (word ++ rest) (token ++ out)

theorem not_prefix_of_ends_eq_nil {regex : Regex α} {passed text : List α}
    (unmatched : regex.ends (passed, text) = []) (edgeFree : regex.EdgeFree) :
    ∀ word ∈ regex.language, ¬word <+: text := by
  rintro word member ⟨ending, rfl⟩
  have matched := Regex.after_mem_ends edgeFree word member passed ending
  rw [unmatched] at matched
  cases matched

theorem replaced_replaceFrom {regex : Regex α} (filled : [] ∉ regex.language)
    (token : List α) (count : Nat) (place : Place α)
    (enough : place.2.length < count) :
    Replaced regex token place.2 (replaceFrom regex token count place) := by
  induction count generalizing place with
  | zero =>
      exact absurd enough (Nat.not_lt_zero _)
  | succ count ih =>
      obtain ⟨passed, rest⟩ := place
      cases matched : (regex.ends (passed, rest)).head? with
      | none =>
          have unmatched := List.head?_eq_none_iff.mp matched
          cases rest with
          | nil =>
              simp only [replaceFrom, matched]
              exact .nil
          | cons symbol rest =>
              simp only [replaceFrom, matched]
              simp only [List.length_cons] at enough
              exact .keep (not_prefix_of_ends_eq_nil unmatched)
                (ih (symbol :: passed, rest) (by simp only; omega))
      | some ended =>
          obtain ⟨word, member, consumed⟩ := Regex.exists_word_of_mem_ends
            regex _ ended (List.mem_of_mem_head? matched)
          have size : 0 < word.length := by
            rw [List.length_pos_iff]
            rintro rfl
            exact filled member
          have lengths := congrArg List.length consumed.1
          rw [List.length_append] at lengths
          cases rest with
          | nil =>
              simp only [List.length_nil] at lengths
              omega
          | cons symbol rest =>
              simp only [List.length_cons] at lengths enough
              have shorter : ended.2.length < rest.length + 1 := by
                omega
              have shape : symbol :: rest = word ++ ended.2 := consumed.1
              simp only [replaceFrom, matched, if_pos shorter]
              rw [shape]
              exact .swap member (ih ended (by omega))

theorem replaced_replaceAll {regex : Regex α} (filled : [] ∉ regex.language)
    (token text : List α) :
    Replaced regex token text (replaceAll regex token text) :=
  replaced_replaceFrom filled token (text.length + 1) ([], text)
    (Nat.lt_succ_self _)

/-! ## Freedom from words -/

/-- No word of the language stands in the text. -/
def Free (language : Language α) (text : List α) : Prop :=
  ∀ word ∈ language, ¬word <:+: text

theorem Free.of_infix {language : Language α} {text part : List α}
    (free : Free language text) (inside : part <:+: text) :
    Free language part :=
  fun word member within => free word member (within.trans inside)

/-- Words of the language around the token stand on one side of it. -/
def Blocks (token : List α) (language : Language α) : Prop :=
  ∀ before later, ∀ word ∈ language, word <:+: before ++ token ++ later →
    word <:+: before ∨ word <:+: later

/-- Replacing makes no word of a language that the token blocks. -/
theorem Replaced.free {regex : Regex α} {token text out : List α}
    {language : Language α} (replaced : Replaced regex token text out)
    (blocks : Blocks token language) (front : List α)
    (free : Free language (front ++ text)) : Free language (front ++ out) := by
  induction replaced generalizing front with
  | nil =>
      exact free
  | @keep symbol rest out _ _ ih =>
      have moved := ih (front ++ [symbol])
      rw [List.append_assoc, List.append_assoc] at moved
      exact moved free
  | @swap word rest out _ _ ih =>
      intro other member inside
      rw [← List.append_assoc] at inside
      cases blocks front out other member inside with
      | inl atLeft =>
          exact free other member (atLeft.trans ⟨[], word ++ rest, rfl⟩)
      | inr atRight =>
          refine ih [] (free.of_infix ?_) other member atRight
          exact ⟨front ++ word, [], by simp⟩

/-- A word of the expression that touches the token means one that stands
beside it, or one that would begin before any match in the place of the
token. -/
def BlocksMatches (token : List α) (language : Language α) : Prop :=
  ∀ before later, ∀ word ∈ language, word <:+: before ++ token ++ later →
    (∃ other ∈ language, other <:+: before) ∨
      (∃ other ∈ language, other <:+: later) ∨
      ∃ start, start ≠ [] ∧ start <:+ before ∧
        ∀ matched ∈ language, ∃ other ∈ language, other <+: start ++ matched

theorem Blocks.blocksMatches {token : List α} {language : Language α}
    (blocks : Blocks token language) : BlocksMatches token language := by
  intro before later word member inside
  cases blocks before later word member inside with
  | inl atLeft =>
      exact Or.inl ⟨word, member, atLeft⟩
  | inr atRight =>
      exact Or.inr (Or.inl ⟨word, member, atRight⟩)

theorem not_infix_of_unmatched {language : Language α}
    (filled : [] ∉ language) {front text : List α}
    (unmatched : ∀ start, start ≠ [] → start <:+ front →
      ∀ word ∈ language, ¬word <+: start ++ text) :
    ∀ word ∈ language, ¬word <:+: front := by
  rintro word member ⟨before, later, rfl⟩
  refine unmatched (word ++ later) ?_ ⟨before, (List.append_assoc _ _ _).symm⟩
    word member ⟨later ++ text, (List.append_assoc _ _ _).symm⟩
  intro empty
  rw [(List.append_eq_nil_iff.mp empty).1] at member
  exact filled member

/-- Replacing leaves no word of the expression. -/
theorem Replaced.free_of_unmatched {regex : Regex α}
    {token text out : List α} (replaced : Replaced regex token text out)
    (edgeFree : regex.EdgeFree) (filled : [] ∉ regex.language)
    (blocks : BlocksMatches token regex.language) (front : List α)
    (unmatched : ∀ start, start ≠ [] → start <:+ front →
      ∀ word ∈ regex.language, ¬word <+: start ++ text) :
    Free regex.language (front ++ out) := by
  induction replaced generalizing front with
  | nil =>
      rw [List.append_nil]
      exact not_infix_of_unmatched filled unmatched
  | @keep symbol rest out isKept _ ih =>
      have moved := ih (front ++ [symbol])
      rw [List.append_assoc] at moved
      refine moved ?_
      intro start startFilled isSuffix word member
      cases List.suffix_concat_iff.mp isSuffix with
      | inl empty =>
          exact absurd empty startFilled
      | inr moreThan =>
          obtain ⟨shorter, rfl, shorterSuffix⟩ := moreThan
          rw [List.append_assoc]
          by_cases empty : shorter = []
          · rw [empty]
            exact isKept edgeFree word member
          · exact unmatched shorter empty shorterSuffix word member
  | @swap word rest out member _ ih =>
      have freeOut : Free regex.language out := by
        refine ih [] ?_
        intro start startFilled isSuffix
        exact absurd (List.suffix_nil.mp isSuffix) startFilled
      intro other otherMember inside
      rw [← List.append_assoc] at inside
      obtain ⟨left, leftMember, atLeft⟩ | ⟨right, rightMember, atRight⟩ |
          ⟨start, startFilled, isSuffix, begins⟩ :=
        blocks front out other otherMember inside
      · exact not_infix_of_unmatched filled unmatched left leftMember atLeft
      · exact freeOut right rightMember atRight
      · obtain ⟨begun, begunMember, atStart⟩ := begins word member
        refine unmatched start startFilled isSuffix begun begunMember ?_
        rw [← List.append_assoc]
        exact atStart.trans (List.prefix_append _ rest)

theorem free_replaceAll {regex : Regex α} {token : List α}
    (edgeFree : regex.EdgeFree) (filled : [] ∉ regex.language)
    (blocks : BlocksMatches token regex.language) (text : List α) :
    Free regex.language (replaceAll regex token text) := by
  refine (replaced_replaceAll filled token text).free_of_unmatched edgeFree
    filled blocks [] ?_
  intro start startFilled isSuffix
  exact absurd (List.suffix_nil.mp isSuffix) startFilled

theorem Free.replaceAll {regex : Regex α} {token text : List α}
    {language : Language α} (free : Free language text)
    (filled : [] ∉ regex.language) (blocks : Blocks token language) :
    Free language (replaceAll regex token text) :=
  (replaced_replaceAll filled token text).free blocks [] free

/-! ## Bracketed tokens -/

theorem infix_append_cons {word before rest : List α} {mark : α}
    (inside : word <:+: before ++ mark :: rest) :
    word <:+: before ∨ word <:+: rest ∨
      ∃ left right, word = left ++ mark :: right ∧ left <:+ before ∧
        right <+: rest := by
  obtain ⟨start, ending, shape⟩ := inside
  rw [List.append_assoc] at shape
  obtain ⟨middle, rfl, onward⟩ | ⟨middle, _, onward⟩ :=
    List.append_eq_append_iff.mp shape
  · -- The word begins before the mark.
    obtain ⟨left, rfl, _⟩ | ⟨left, rfl, later⟩ :=
      List.append_eq_append_iff.mp onward
    · exact Or.inl ⟨start, left, by simp⟩
    · cases left with
      | nil =>
          exact Or.inl ⟨start, [], by simp⟩
      | cons head right =>
          obtain ⟨rfl, rfl⟩ := List.cons.inj later
          exact Or.inr (Or.inr ⟨middle, right, rfl, ⟨start, rfl⟩,
            ⟨ending, rfl⟩⟩)
  · -- The word begins at the mark or after it.
    cases middle with
    | cons head middle =>
        obtain ⟨_, rfl⟩ := List.cons.inj onward
        exact Or.inr (Or.inl ⟨middle, ending, by simp⟩)
    | nil =>
        cases word with
        | nil =>
            exact Or.inl List.nil_infix
        | cons head right =>
            obtain ⟨rfl, rfl⟩ := List.cons.inj onward
            exact Or.inr (Or.inr ⟨[], right, rfl, List.nil_suffix,
              ⟨ending, rfl⟩⟩)

/-- An opening bracket stands before a symbol other than the first one of the
token, and a closing bracket after an opening one. -/
structure Enclosed (opening closing first : α) (word : List α) : Prop where
  opened : ∀ left right, word = left ++ opening :: right →
    ∃ symbol rest, right = symbol :: rest ∧ symbol ≠ first
  closed : ∀ left right, word = left ++ closing :: right → opening ∈ left

theorem enclosed_of_not_mem {opening closing first : α} {word : List α}
    (unopened : opening ∉ word) (unclosed : closing ∉ word) :
    Enclosed opening closing first word where
  opened := by
    rintro left right rfl
    exact absurd (List.mem_append_right _ List.mem_cons_self) unopened
  closed := by
    rintro left right rfl
    exact absurd (List.mem_append_right _ List.mem_cons_self) unclosed

theorem Enclosed.append {opening closing first : α} {word more : List α}
    (start : Enclosed opening closing first word)
    (onward : Enclosed opening closing first more) :
    Enclosed opening closing first (word ++ more) where
  opened := by
    intro left right splits
    obtain ⟨middle, rfl, later⟩ | ⟨middle, rfl, later⟩ :=
      List.append_eq_append_iff.mp splits
    · exact onward.opened middle right later
    · cases middle with
      | nil =>
          exact onward.opened [] right later.symm
      | cons head middle =>
          obtain ⟨rfl, rfl⟩ := List.cons.inj later
          obtain ⟨symbol, rest, rfl, different⟩ := start.opened left middle rfl
          exact ⟨symbol, rest ++ more, rfl, different⟩
  closed := by
    intro left right splits
    obtain ⟨middle, rfl, later⟩ | ⟨middle, rfl, later⟩ :=
      List.append_eq_append_iff.mp splits
    · exact List.mem_append_right _ (onward.closed middle right later)
    · cases middle with
      | nil =>
          exact absurd (onward.closed [] right later.symm) List.not_mem_nil
      | cons head middle =>
          obtain ⟨rfl, rfl⟩ := List.cons.inj later
          exact start.closed left middle rfl

/-- A bracketed word. -/
theorem enclosed_bracketed {opening closing first head : α} {inner : List α}
    (different : head ≠ first) (distinct : opening ≠ closing)
    (unopened : opening ∉ head :: inner) :
    Enclosed opening closing first
      (opening :: (head :: inner) ++ [closing]) where
  opened := by
    intro left right splits
    cases left with
    | nil =>
        obtain ⟨_, rfl⟩ := List.cons.inj splits
        exact ⟨head, inner ++ [closing], rfl, different⟩
    | cons other left =>
        obtain ⟨_, later⟩ := List.cons.inj splits
        have shape : head :: inner ++ [closing] = left ++ opening :: right :=
          later
        have member : opening ∈ head :: inner ++ [closing] := by
          rw [shape]
          exact List.mem_append_right _ List.mem_cons_self
        rw [List.mem_append, List.mem_singleton] at member
        cases member with
        | inl inside =>
            exact absurd inside unopened
        | inr same =>
            exact absurd same distinct
  closed := by
    intro left right splits
    cases left with
    | nil =>
        exact absurd (List.cons.inj splits).1 distinct
    | cons other left =>
        obtain ⟨rfl, _⟩ := List.cons.inj splits
        exact List.mem_cons_self

/-- A token in brackets blocks a language of enclosed words which all have a
symbol that is not in the token. -/
theorem blocks_bracketed {opening closing first : α} {inner : List α}
    {language : Language α} (unopened : opening ∉ first :: inner)
    (enclosed : ∀ word ∈ language, Enclosed opening closing first word)
    (foreign : ∀ word ∈ language, ∃ symbol ∈ word, symbol ∉ first :: inner) :
    Blocks (opening :: (first :: inner) ++ [closing]) language := by
  intro before later word member inside
  have marked : word <:+:
      before ++ opening :: (first :: inner ++ closing :: later) := by
    simpa using inside
  obtain atLeft | afterOpening | ⟨left, right, rfl, _, within⟩ :=
    infix_append_cons marked
  · exact Or.inl atLeft
  · obtain inToken | atRight | ⟨left, right, rfl, within, _⟩ :=
      infix_append_cons afterOpening
    · obtain ⟨symbol, symbolMember, absent⟩ := foreign word member
      exact absurd (inToken.subset symbolMember) absent
    · exact Or.inr atRight
    · have reopened := (enclosed _ member).closed left right rfl
      exact absurd (within.subset reopened) unopened
  · obtain ⟨symbol, rest, rfl, different⟩ :=
      (enclosed _ member).opened left right rfl
    have same := (List.cons_prefix_cons.mp within).1
    exact absurd same different

end BidayaxExecutive.Library.Backtracking
