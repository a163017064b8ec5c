import BidayaxExecutive.Library.Backtracking

/-!
# Captures

A regular expression that is a row of pieces, with a condition on what lies
ahead of the match.  A reading keeps what each piece consumes, so that a group
of the expression is one of its pieces; it is the first one in the order in
which the pieces prefer their ends.
-/

namespace BidayaxExecutive.Library.Captures

open BidayaxExecutive.Library.Backtracking
open BidayaxExecutive.Library.Backtracking.Regex

variable {α : Type}

structure Expression (α : Type) where
  pieces : List (Regex α)
  ahead : Place α → Bool

structure Reading (α : Type) where
  words : List (List α)
  ended : Place α

def consumed (place ended : Place α) : List α :=
  place.2.take (place.2.length - ended.2.length)

theorem consumed_after (passed word rest : List α) :
    consumed (passed, word ++ rest) (after passed word rest) = word := by
  simp [consumed, after]

def readPieces (ahead : Place α → Bool) :
    List (Regex α) → Place α → Option (Reading α)
  | [], place => if ahead place then some ⟨[], place⟩ else none
  | piece :: pieces, place =>
      (piece.ends place).findSome? fun middle =>
        (readPieces ahead pieces middle).map fun reading =>
          ⟨consumed place middle :: reading.words, reading.ended⟩

/-! ## One piece after the other -/

section Pieces

variable {ahead : Place α → Bool} {piece : Regex α} {pieces : List (Regex α)}
  {passed word rest : List α} {place : Place α} {reading : Reading α}

theorem readPieces_nil (follows : ahead place = true) :
    readPieces ahead [] place = some ⟨[], place⟩ :=
  if_pos follows

/-- Ends that are preferred lead to nothing, the next one leads on. -/
theorem readPieces_cons (early late : List (Place α))
    (ends : piece.ends (passed, word ++ rest) =
      early ++ after passed word rest :: late)
    (given : ∀ other ∈ early, readPieces ahead pieces other = none)
    (onward : readPieces ahead pieces (after passed word rest) = some reading) :
    readPieces ahead (piece :: pieces) (passed, word ++ rest) =
      some ⟨word :: reading.words, reading.ended⟩ := by
  have skipped : early.findSome? (fun middle =>
      (readPieces ahead pieces middle).map fun reading =>
        (⟨consumed (passed, word ++ rest) middle :: reading.words,
          reading.ended⟩ : Reading α)) = none := by
    rw [List.findSome?_eq_none_iff]
    intro other member
    rw [given other member]
    rfl
  rw [readPieces, ends, List.findSome?_append, skipped, Option.none_or,
    List.findSome?_cons, onward, Option.map_some, consumed_after]

theorem readPieces_of_ends_eq_nil (ends : piece.ends place = []) :
    readPieces ahead (piece :: pieces) place = none := by
  rw [readPieces, ends]
  rfl

theorem ends_eq_nil_of_readPieces
    (unread : readPieces (fun _ => true) [piece] place = none) :
    piece.ends place = [] := by
  rw [readPieces, List.findSome?_eq_none_iff] at unread
  by_contra some
  obtain ⟨middle, member⟩ := List.exists_mem_of_ne_nil _ some
  have impossible := unread middle member
  rw [readPieces, if_pos rfl] at impossible
  cases impossible

theorem readPieces_edge {test : α → Bool}
    (there : (place.1.head?.any test != place.2.head?.any test) = true)
    (onward : readPieces ahead pieces place = some reading) :
    readPieces ahead (edge test :: pieces) place =
      some ⟨[] :: reading.words, reading.ended⟩ := by
  have ends : (edge test).ends place = [place] := if_pos there
  have nothing : consumed place place = [] := by simp [consumed]
  rw [readPieces, ends, List.findSome?_cons, onward, Option.map_some, nothing]

theorem readPieces_one {test : α → Bool} {symbol : α}
    (passes : test symbol = true)
    (onward :
      readPieces ahead pieces (symbol :: passed, rest) = some reading) :
    readPieces ahead (one test :: pieces) (passed, symbol :: rest) =
      some ⟨[symbol] :: reading.words, reading.ended⟩ := by
  have ends : (one test).ends (passed, [symbol] ++ rest) =
      [] ++ after passed [symbol] rest :: [] := if_pos passes
  exact readPieces_cons [] [] ends (List.forall_mem_nil _) onward

theorem readPieces_one_eq_none {test : α → Bool}
    (stops : place.2.head?.all (fun symbol => !test symbol) = true) :
    readPieces ahead (one test :: pieces) place = none := by
  obtain ⟨passed, rest⟩ := place
  cases rest with
  | nil =>
      rfl
  | cons symbol rest =>
      have fails : ¬(test symbol = true) := by simpa using stops
      exact readPieces_of_ends_eq_nil (if_neg fails)

/-- Nothing is read if no end leads on. -/
theorem readPieces_eq_none
    (each : ∀ middle ∈ piece.ends place,
      readPieces ahead pieces middle = none) :
    readPieces ahead (piece :: pieces) place = none := by
  rw [readPieces, List.findSome?_eq_none_iff]
  intro middle member
  rw [each middle member]
  rfl

end Pieces

/-! ## Runs of a class -/

/-- The places along a run of symbols of a class, the nearest first. -/
def along (test : α → Bool) : List α → List α → List (Place α)
  | passed, [] => [(passed, [])]
  | passed, symbol :: rest =>
      (passed, symbol :: rest) ::
        if test symbol then along test (symbol :: passed) rest else []

section Runs

variable {test : α → Bool} {passed front rest : List α}

theorem repeats_one (greedy : Bool) (count : Nat) (passed text : List α)
    (enough : text.length ≤ count) :
    repeats (one test).ends greedy count (passed, text) =
      if greedy then (along test passed text).reverse
      else along test passed text := by
  induction count generalizing passed text with
  | zero =>
      obtain rfl := List.length_eq_zero_iff.mp (Nat.le_zero.mp enough)
      cases greedy <;> rfl
  | succ count ih =>
      cases text with
      | nil =>
          cases greedy <;> rfl
      | cons symbol rest =>
          have fewer : rest.length ≤ count := Nat.le_of_succ_le_succ enough
          by_cases passes : test symbol = true
          · cases greedy with
            | true =>
                simp [repeats, ends, along, passes, ih _ _ fewer]
            | false =>
                simp [repeats, ends, along, passes, ih _ _ fewer]
          · cases greedy <;> simp [repeats, ends, along, passes]

theorem ends_star_one (greedy : Bool) (passed text : List α) :
    (star greedy (one test)).ends (passed, text) =
      if greedy then (along test passed text).reverse
      else along test passed text :=
  repeats_one greedy text.length passed text (le_refl _)

theorem mem_along {text : List α} {place : Place α} :
    place ∈ along test passed text ↔
      ∃ front rest, text = front ++ rest ∧
        (∀ symbol ∈ front, test symbol = true) ∧
          place = after passed front rest := by
  induction text generalizing passed with
  | nil =>
      rw [along, List.mem_singleton]
      constructor
      · rintro rfl
        exact ⟨[], [], rfl, nofun, rfl⟩
      · rintro ⟨front, rest, splits, _, rfl⟩
        obtain ⟨rfl, rfl⟩ := List.append_eq_nil_iff.mp splits.symm
        rfl
  | cons symbol text ih =>
      rw [along, List.mem_cons, List.mem_ite_nil_right, ih]
      constructor
      · rintro (rfl | ⟨passes, front, rest, rfl, allPass, rfl⟩)
        · exact ⟨[], symbol :: text, rfl, nofun, rfl⟩
        · refine ⟨symbol :: front, rest, rfl,
            List.forall_mem_cons.mpr ⟨passes, allPass⟩, ?_⟩
          rw [after, after, List.reverse_cons, List.append_assoc]
          rfl
      · rintro ⟨front, rest, splits, allPass, rfl⟩
        cases front with
        | nil =>
            rw [List.nil_append] at splits
            exact Or.inl (by rw [splits]; rfl)
        | cons head front =>
            obtain ⟨rfl, rfl⟩ := List.cons.inj splits
            obtain ⟨passes, others⟩ := List.forall_mem_cons.mp allPass
            refine Or.inr ⟨passes, front, rest, rfl, others, ?_⟩
            rw [after, after, List.reverse_cons, List.append_assoc]
            rfl

/-- The places before the end of a run, this end, and those behind it. -/
theorem along_append (allPass : ∀ symbol ∈ front, test symbol = true)
    (passed rest : List α) :
    ∃ nearer further,
      along test passed (front ++ rest) =
          nearer ++ after passed front rest :: further ∧
        (∀ place ∈ nearer, ∃ start others, front = start ++ others ∧
          others ≠ [] ∧ place = after passed start (others ++ rest)) ∧
        ∀ place ∈ further, ∃ more others, rest = more ++ others ∧
          more ≠ [] ∧ (∀ symbol ∈ more, test symbol = true) ∧
            place = after passed (front ++ more) others := by
  induction front generalizing passed with
  | nil =>
      cases rest with
      | nil =>
          exact ⟨[], [], rfl, nofun, nofun⟩
      | cons symbol rest =>
          refine ⟨[], if test symbol then along test (symbol :: passed) rest
            else [], rfl, nofun, ?_⟩
          intro place member
          rw [List.mem_ite_nil_right, mem_along] at member
          obtain ⟨passes, more, others, rfl, morePass, rfl⟩ := member
          refine ⟨symbol :: more, others, rfl, List.cons_ne_nil _ _,
            List.forall_mem_cons.mpr ⟨passes, morePass⟩, ?_⟩
          rw [List.nil_append, after, after, List.reverse_cons,
            List.append_assoc]
          rfl
  | cons symbol front ih =>
      obtain ⟨passes, allOthers⟩ := List.forall_mem_cons.mp allPass
      obtain ⟨nearer, further, splits, near, far⟩ :=
        ih allOthers (symbol :: passed)
      have same (word rest : List α) :
          after (symbol :: passed) word rest =
            after passed (symbol :: word) rest := by
        rw [after, after, List.reverse_cons, List.append_assoc]
        rfl
      refine ⟨(passed, symbol :: (front ++ rest)) :: nearer, further,
        ?_, ?_, ?_⟩
      · rw [List.cons_append, along, if_pos passes, splits, same]
        rfl
      · intro place member
        rcases List.mem_cons.mp member with rfl | onward
        · exact ⟨[], symbol :: front, rfl, List.cons_ne_nil _ _, rfl⟩
        · obtain ⟨start, others, rfl, filled, rfl⟩ := near place onward
          exact ⟨symbol :: start, others, rfl, filled, same _ _⟩
      · intro place member
        obtain ⟨more, others, rfl, filled, morePass, rfl⟩ := far place member
        exact ⟨more, others, rfl, filled, morePass, same _ _⟩

variable {ahead : Place α → Bool} {pieces : List (Regex α)}
  {reading : Reading α}

/-- A greedy run stops at the last place from which the other pieces can be
read. -/
theorem readPieces_star (allPass : ∀ symbol ∈ front, test symbol = true)
    (longer : ∀ more others, rest = more ++ others → more ≠ [] →
      (∀ symbol ∈ more, test symbol = true) →
        readPieces ahead pieces (after passed (front ++ more) others) = none)
    (onward :
      readPieces ahead pieces (after passed front rest) = some reading) :
    readPieces ahead (star true (one test) :: pieces) (passed, front ++ rest) =
      some ⟨front :: reading.words, reading.ended⟩ := by
  obtain ⟨nearer, further, splits, _, far⟩ := along_append allPass passed rest
  refine readPieces_cons further.reverse nearer.reverse ?_ ?_ onward
  · rw [ends_star_one, if_pos rfl, splits, List.reverse_append,
      List.reverse_cons, List.append_assoc]
    rfl
  · intro place member
    obtain ⟨more, others, rest', filled, morePass, rfl⟩ :=
      far place (List.mem_reverse.mp member)
    exact longer more others rest' filled morePass

theorem after_cons (symbol : α) (passed word rest : List α) :
    after (symbol :: passed) word rest =
      after passed (symbol :: word) rest := by
  rw [after, after, List.reverse_cons, List.append_assoc]
  rfl

theorem ends_plus_one {symbol : α} (greedy : Bool)
    (passes : test symbol = true) (passed rest : List α) :
    (seq (one test) (star greedy (one test))).ends (passed, symbol :: rest) =
      if greedy then (along test (symbol :: passed) rest).reverse
      else along test (symbol :: passed) rest := by
  rw [ends, ends, if_pos passes, List.flatMap_singleton, ends_star_one]

theorem readPieces_plus (filled : front ≠ [])
    (allPass : ∀ symbol ∈ front, test symbol = true)
    (longer : ∀ more others, rest = more ++ others → more ≠ [] →
      (∀ symbol ∈ more, test symbol = true) →
        readPieces ahead pieces (after passed (front ++ more) others) = none)
    (onward :
      readPieces ahead pieces (after passed front rest) = some reading) :
    readPieces ahead (plus (one test) :: pieces) (passed, front ++ rest) =
      some ⟨front :: reading.words, reading.ended⟩ := by
  obtain ⟨symbol, front, rfl⟩ := List.exists_cons_of_ne_nil filled
  obtain ⟨passes, allOthers⟩ := List.forall_mem_cons.mp allPass
  obtain ⟨nearer, further, splits, _, far⟩ :=
    along_append allOthers (symbol :: passed) rest
  refine readPieces_cons further.reverse nearer.reverse ?_ ?_ onward
  · rw [List.cons_append, plus, ends_plus_one true passes, if_pos rfl, splits,
      List.reverse_append, List.reverse_cons, List.append_assoc, after_cons]
    rfl
  · intro place member
    obtain ⟨more, others, rest', moreFilled, morePass, rfl⟩ :=
      far place (List.mem_reverse.mp member)
    rw [after_cons]
    exact longer more others rest' moreFilled morePass

/-- Two different classes in a row: a run ends where the other class starts. -/
theorem not_longer_of_head {more others : List α}
    (stops : rest.head?.all (fun symbol => !test symbol) = true)
    (splits : rest = more ++ others) (filled : more ≠ [])
    (morePass : ∀ symbol ∈ more, test symbol = true) : False := by
  obtain ⟨symbol, more, rfl⟩ := List.exists_cons_of_ne_nil filled
  rw [splits, List.cons_append, List.head?_cons, Option.all_some,
    morePass symbol List.mem_cons_self] at stops
  cases stops

/-- The run is as long as it can be. -/
theorem readPieces_plus_whole (filled : front ≠ [])
    (allPass : ∀ symbol ∈ front, test symbol = true)
    (stops : rest.head?.all (fun symbol => !test symbol) = true)
    (onward :
      readPieces ahead pieces (after passed front rest) = some reading) :
    readPieces ahead (plus (one test) :: pieces) (passed, front ++ rest) =
      some ⟨front :: reading.words, reading.ended⟩ :=
  readPieces_plus filled allPass
    (fun _ _ splits moreFilled morePass =>
      (not_longer_of_head stops splits moreFilled morePass).elim)
    onward

theorem readPieces_star_whole
    (allPass : ∀ symbol ∈ front, test symbol = true)
    (stops : rest.head?.all (fun symbol => !test symbol) = true)
    (onward :
      readPieces ahead pieces (after passed front rest) = some reading) :
    readPieces ahead (star true (one test) :: pieces) (passed, front ++ rest) =
      some ⟨front :: reading.words, reading.ended⟩ :=
  readPieces_star allPass
    (fun _ _ splits moreFilled morePass =>
      (not_longer_of_head stops splits moreFilled morePass).elim)
    onward

/-- `.+?`: the run stops at the first place from which the other pieces can be
read. -/
theorem readPieces_lazyPlus (filled : front ≠ [])
    (allPass : ∀ symbol ∈ front, test symbol = true)
    (shorter : ∀ start others, front = start ++ others → start ≠ [] →
      others ≠ [] →
        readPieces ahead pieces (after passed start (others ++ rest)) = none)
    (onward :
      readPieces ahead pieces (after passed front rest) = some reading) :
    readPieces ahead (seq (one test) (star false (one test)) :: pieces)
        (passed, front ++ rest) =
      some ⟨front :: reading.words, reading.ended⟩ := by
  obtain ⟨symbol, front, rfl⟩ := List.exists_cons_of_ne_nil filled
  obtain ⟨passes, allOthers⟩ := List.forall_mem_cons.mp allPass
  obtain ⟨nearer, further, splits, near, _⟩ :=
    along_append allOthers (symbol :: passed) rest
  refine readPieces_cons nearer further ?_ ?_ onward
  · rw [List.cons_append, ends_plus_one false passes, splits, after_cons]
    rfl
  · intro place member
    obtain ⟨start, others, splitsFront, othersFilled, rfl⟩ :=
      near place member
    rw [after_cons]
    exact shorter (symbol :: start) others (by rw [splitsFront]; rfl)
      (List.cons_ne_nil _ _) othersFilled

/-- `.*?` -/
theorem readPieces_lazyStar
    (allPass : ∀ symbol ∈ front, test symbol = true)
    (shorter : ∀ start others, front = start ++ others → others ≠ [] →
      readPieces ahead pieces (after passed start (others ++ rest)) = none)
    (onward :
      readPieces ahead pieces (after passed front rest) = some reading) :
    readPieces ahead (star false (one test) :: pieces) (passed, front ++ rest) =
      some ⟨front :: reading.words, reading.ended⟩ := by
  obtain ⟨nearer, further, splits, near, _⟩ := along_append allPass passed rest
  refine readPieces_cons nearer further ?_ ?_ onward
  · rw [ends_star_one, splits]
    rfl
  · intro place member
    obtain ⟨start, others, splitsFront, othersFilled, rfl⟩ :=
      near place member
    exact shorter start others splitsFront othersFilled

end Runs

/-! ## Searching -/

namespace Expression

variable (expression : Expression α)

/-- A match that begins at the place. -/
def read (place : Place α) : Option (Reading α) :=
  readPieces expression.ahead expression.pieces place

def execFrom : List α → List α → Option (Reading α)
  | passed, [] => expression.read (passed, [])
  | passed, symbol :: rest =>
      (expression.read (passed, symbol :: rest)).or
        (execFrom (symbol :: passed) rest)

/-- `text.match(expression)`: the first place where a match begins. -/
def exec (text : List α) : Option (Reading α) :=
  expression.execFrom [] text

/-- A match begins before the end of the first text, when the other one
follows. -/
def beginsIn : List α → List α → List α → Bool
  | _, [], _ => false
  | passed, symbol :: text, rest =>
      (expression.read (passed, symbol :: (text ++ rest))).isSome ||
        beginsIn (symbol :: passed) text rest

theorem execFrom_append {passed text rest : List α}
    (silent : expression.beginsIn passed text rest = false) :
    expression.execFrom passed (text ++ rest) =
      expression.execFrom (text.reverse ++ passed) rest := by
  induction text generalizing passed with
  | nil =>
      rfl
  | cons symbol text ih =>
      rw [beginsIn, Bool.or_eq_false_iff, Option.isSome_eq_false_iff,
        Option.isNone_iff_eq_none] at silent
      rw [List.cons_append, execFrom, silent.1, Option.none_or, ih silent.2,
        List.reverse_cons, List.append_assoc]
      rfl

theorem execFrom_of_read {passed rest : List α} {reading : Reading α}
    (read : expression.read (passed, rest) = some reading) :
    expression.execFrom passed rest = some reading := by
  cases rest with
  | nil =>
      exact read
  | cons symbol rest =>
      rw [execFrom, read]
      rfl

theorem read_eq_none_of_beginsIn {passed text start others rest : List α}
    {symbol : α} (silent : expression.beginsIn passed text rest = false)
    (splits : text = start ++ symbol :: others) :
    expression.read (start.reverse ++ passed, symbol :: (others ++ rest)) =
      none := by
  induction start generalizing passed text with
  | nil =>
      rw [splits, List.nil_append, beginsIn, Bool.or_eq_false_iff,
        Option.isSome_eq_false_iff, Option.isNone_iff_eq_none] at silent
      exact silent.1
  | cons first start ih =>
      rw [splits, List.cons_append, beginsIn, Bool.or_eq_false_iff] at silent
      have onward := ih silent.2 rfl
      rw [List.reverse_cons, List.append_assoc]
      exact onward

/-- The first match is the one behind a text in which none begins. -/
theorem exec_append {text rest : List α} {reading : Reading α}
    (silent : expression.beginsIn [] text rest = false)
    (read : expression.read (text.reverse, rest) = some reading) :
    expression.exec (text ++ rest) = some reading := by
  rw [exec, execFrom_append expression silent, List.append_nil]
  exact execFrom_of_read expression read

/-- What the pieces consume in the matches of a text, one match behind the
other; so many symbols still belong to the last match. -/
def matchesFrom : Nat → List α → List α → List (List (List α))
  | _, passed, [] => ((expression.read (passed, [])).map (·.words)).toList
  | skipped + 1, passed, symbol :: rest =>
      matchesFrom skipped (symbol :: passed) rest
  | 0, passed, symbol :: rest =>
      match expression.read (passed, symbol :: rest) with
      | some reading =>
          reading.words ::
            matchesFrom (rest.length - reading.ended.2.length)
              (symbol :: passed) rest
      | none => matchesFrom 0 (symbol :: passed) rest

/-- `text.matchAll(expression)`. -/
def matchAll (text : List α) : List (List (List α)) :=
  expression.matchesFrom 0 [] text

/-- Nothing is found in a text in which no match begins. -/
theorem matchesFrom_append {passed text rest : List α}
    (silent : expression.beginsIn passed text rest = false) :
    expression.matchesFrom 0 passed (text ++ rest) =
      expression.matchesFrom 0 (text.reverse ++ passed) rest := by
  induction text generalizing passed with
  | nil =>
      rfl
  | cons symbol text ih =>
      rw [beginsIn, Bool.or_eq_false_iff, Option.isSome_eq_false_iff,
        Option.isNone_iff_eq_none] at silent
      rw [List.cons_append, matchesFrom, silent.1, List.reverse_cons,
        List.append_assoc]
      exact ih silent.2

theorem matchesFrom_length (passed text rest : List α) :
    expression.matchesFrom text.length passed (text ++ rest) =
      expression.matchesFrom 0 (text.reverse ++ passed) rest := by
  induction text generalizing passed with
  | nil =>
      rfl
  | cons symbol text ih =>
      rw [List.length_cons, List.cons_append, matchesFrom, ih,
        List.reverse_cons, List.append_assoc]
      rfl

/-- The search goes on behind a match. -/
theorem matchesFrom_of_read {passed text rest : List α} {reading : Reading α}
    (filled : text ≠ [])
    (read : expression.read (passed, text ++ rest) = some reading)
    (ended : reading.ended.2 = rest) :
    expression.matchesFrom 0 passed (text ++ rest) =
      reading.words ::
        expression.matchesFrom 0 (text.reverse ++ passed) rest := by
  obtain ⟨symbol, text, rfl⟩ := List.exists_cons_of_ne_nil filled
  have skipped : (text ++ rest).length - reading.ended.2.length =
      text.length := by
    rw [ended, List.length_append, Nat.add_sub_cancel]
  rw [List.cons_append] at read ⊢
  rw [matchesFrom, read]
  change reading.words :: expression.matchesFrom
    ((text ++ rest).length - reading.ended.2.length) (symbol :: passed)
      (text ++ rest) = _
  rw [skipped, matchesFrom_length, List.reverse_cons, List.append_assoc]
  rfl

end Expression

end BidayaxExecutive.Library.Captures
