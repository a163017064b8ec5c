import BidayaxExecutive.Runtime.JsString
import Mathlib.Algebra.Group.Nat.Defs

/-!
# Decimal numerals

Decimal text of natural numbers, in free width and in the fixed width of an ISO
timestamp, and the reader that inverts both.  `Number::toString` prints an
integer in free width up to `2^53`; above, it prints the shortest decimal that
is read as the same double.
-/

namespace BidayaxExecutive.Runtime

open JsString

/-- The code unit of a digit below ten. -/
def digitUnit (digit : Nat) : UInt16 :=
  (48 + digit).toUInt16

/-- The number a digit stands for. -/
def digitValue (unit : UInt16) : Nat :=
  unit.toNat - 48

theorem digitUnit_toNat {digit : Nat} (small : digit < 10) :
    (digitUnit digit).toNat = 48 + digit := by
  unfold digitUnit
  simp only [Nat.toUInt16_eq, UInt16.toNat_ofNat']
  omega

@[simp]
theorem digitValue_digitUnit {digit : Nat} (small : digit < 10) :
    digitValue (digitUnit digit) = digit := by
  simp [digitValue, digitUnit_toNat small]

@[simp]
theorem isDigit_digitUnit {digit : Nat} (small : digit < 10) :
    isDigit (digitUnit digit) = true := by
  simp only [isDigit, Bool.and_eq_true, decide_eq_true_eq,
    UInt16.le_iff_toNat_le, digitUnit_toNat small]
  exact ⟨by simp, by simp; omega⟩

/-- Read digits from the left onto a number already read. -/
def digitsValue (start : Nat) (digits : JsString) : Nat :=
  digits.foldl (fun value unit => value * 10 + digitValue unit) start

@[simp]
theorem digitsValue_nil (start : Nat) :
    digitsValue start [] = start :=
  rfl

@[simp]
theorem digitsValue_cons (start : Nat) (unit : UInt16) (rest : JsString) :
    digitsValue start (unit :: rest) =
      digitsValue (start * 10 + digitValue unit) rest := by
  simp only [digitsValue, List.foldl_cons]

@[simp]
theorem digitsValue_append (start : Nat) (left right : JsString) :
    digitsValue start (left ++ right) =
      digitsValue (digitsValue start left) right := by
  simp [digitsValue]

/-! ## Fixed width -/

/-- The lowest `width` decimal digits of a number, most significant first. -/
def fixedText : Nat → Nat → JsString
  | 0, _ => []
  | width + 1, number =>
      fixedText width (number / 10) ++ [digitUnit (number % 10)]

@[simp]
theorem length_fixedText (width number : Nat) :
    (fixedText width number).length = width := by
  induction width generalizing number with
  | zero =>
      rfl
  | succ width inductionHypothesis =>
      simp [fixedText, inductionHypothesis]

theorem isDigit_of_mem_fixedText {width number : Nat} {unit : UInt16}
    (member : unit ∈ fixedText width number) :
    isDigit unit = true := by
  induction width generalizing number with
  | zero =>
      simp [fixedText] at member
  | succ width inductionHypothesis =>
      rcases List.mem_append.mp member with inside | last
      · exact inductionHypothesis inside
      · rw [List.mem_singleton.mp last]
        exact isDigit_digitUnit (Nat.mod_lt _ (by decide))

theorem digitsValue_fixedText {width number : Nat}
    (fits : number < 10 ^ width) :
    digitsValue 0 (fixedText width number) = number := by
  induction width generalizing number with
  | zero =>
      rw [Nat.pow_zero, Nat.lt_one_iff] at fits
      simp [fixedText, fits]
  | succ width inductionHypothesis =>
      have quotientFits : number / 10 < 10 ^ width := by
        rw [Nat.pow_succ] at fits
        omega
      simp only [fixedText, digitsValue_append, digitsValue_cons,
        digitsValue_nil, inductionHypothesis quotientFits,
        digitValue_digitUnit (Nat.mod_lt number (by decide : 0 < 10))]
      omega

/-! ## Free width -/

/-- Prepend the digits of a number to `suffix`; the fuel bounds their count. -/
def natTextOnto : Nat → Nat → JsString → JsString
  | 0, _, suffix => suffix
  | fuel + 1, number, suffix =>
      if number < 10 then digitUnit number :: suffix
      else
        natTextOnto fuel (number / 10) (digitUnit (number % 10) :: suffix)

/-- Decimal digits without leading zeros. -/
def natText (number : Nat) : JsString :=
  natTextOnto (number + 1) number []

/-- Decimal digits of an integer. -/
def intText (number : Int) : JsString :=
  match number with
  | Int.ofNat natural => natText natural
  | Int.negSucc natural => 45 :: natText (natural + 1)

private theorem digitsValue_natTextOnto (fuel : Nat) :
    ∀ (number : Nat) (suffix : JsString), number < fuel →
      digitsValue 0 (natTextOnto fuel number suffix) =
        digitsValue number suffix := by
  induction fuel with
  | zero =>
      intro number suffix small
      omega
  | succ fuel inductionHypothesis =>
      intro number suffix small
      rw [natTextOnto]
      split_ifs with single
      · simp only [digitsValue_cons, digitValue_digitUnit single,
          Nat.zero_mul, Nat.zero_add]
      · rw [inductionHypothesis (number / 10) _ (by omega),
          digitsValue_cons,
          digitValue_digitUnit (Nat.mod_lt number (by decide))]
        congr 1
        omega

/-- Reading back the digits of a number gives the number. -/
theorem digitsValue_natText (number : Nat) :
    digitsValue 0 (natText number) = number :=
  digitsValue_natTextOnto (number + 1) number [] (by omega)

theorem natText_injective : Function.Injective natText := by
  intro left right same
  rw [← digitsValue_natText left, same, digitsValue_natText]

private theorem isDigit_of_mem_natTextOnto {fuel number : Nat}
    {suffix : JsString}
    (suffixDigits : ∀ unit ∈ suffix, isDigit unit = true) :
    ∀ unit ∈ natTextOnto fuel number suffix, isDigit unit = true := by
  induction fuel generalizing number suffix with
  | zero =>
      simpa [natTextOnto] using suffixDigits
  | succ fuel inductionHypothesis =>
      rw [natTextOnto]
      split_ifs with single
      · simp only [List.mem_cons, forall_eq_or_imp]
        exact ⟨isDigit_digitUnit single, suffixDigits⟩
      · apply inductionHypothesis
        simp only [List.mem_cons, forall_eq_or_imp]
        exact ⟨isDigit_digitUnit (Nat.mod_lt _ (by decide)),
          suffixDigits⟩

theorem isDigit_of_mem_natText {number : Nat} {unit : UInt16}
    (member : unit ∈ natText number) :
    isDigit unit = true :=
  isDigit_of_mem_natTextOnto (by simp) unit member

/-- The numeral of a positive number starts with a nonzero digit. -/
private theorem natTextOnto_head {fuel : Nat} :
    ∀ {number : Nat} {suffix : JsString}, number < fuel → 0 < number →
      ∃ digit rest, 0 < digit ∧ digit < 10 ∧
        natTextOnto fuel number suffix = digitUnit digit :: rest := by
  induction fuel with
  | zero =>
      intro number suffix small
      omega
  | succ fuel inductionHypothesis =>
      intro number suffix small positive
      rw [natTextOnto]
      split_ifs with single
      · exact ⟨number, suffix, positive, single, rfl⟩
      · exact inductionHypothesis (by omega) (by omega)

theorem natText_head {number : Nat} (positive : 0 < number) :
    ∃ digit rest, 0 < digit ∧ digit < 10 ∧
      natText number = digitUnit digit :: rest :=
  natTextOnto_head (by omega) positive

@[simp]
theorem natText_zero : natText 0 = [48] :=
  rfl

/-! ## Integers that are doubles -/

/-- The distance from a double of at least `2^53` to the next one. -/
def doubleGap (value : Nat) : Nat :=
  2 ^ (Nat.log2 value - 52)

/-- Whether a decimal is read as the double `value`: it is within half of the
distance to the doubles beside it, or on the half where the mantissa is even.
Below a power of two the doubles are twice as dense. -/
def readsAs (value decimal : Nat) : Bool :=
  let gap := doubleGap value
  let evenMantissa := value / gap % 2 = 0
  let distance :=
    if value ≤ decimal then 2 * (decimal - value)
    else if value = gap * 2 ^ 52 then 4 * (value - decimal)
    else 2 * (value - decimal)
  decide (distance < gap ∨ evenMantissa ∧ distance = gap)

/-- The nearest of the decimals that are read as the double and end with the
most zeros; between two that are as near, the one with an even last digit. -/
def shortestDecimal (value : Nat) : Nat → Nat
  | 0 => value
  | zeros + 1 =>
      let unit := 10 ^ (zeros + 1)
      let below := value / unit * unit
      let above := below + unit
      let isBelowNearer := value - below < above - value ∨
        value - below = above - value ∧ value / unit % 2 = 0
      match readsAs value below, readsAs value above with
      | true, true => if isBelowNearer then below else above
      | true, false => below
      | false, true => above
      | false, false => shortestDecimal value zeros

/-- The digits with an exponent, without the zeros at the end. -/
def exponentText (digits : JsString) : JsString :=
  let significant := (digits.reverse.dropWhile (· = 48)).reverse
  significant.take 1 ++
    (if significant.length = 1 then [] else 46 :: significant.drop 1) ++
    101 :: 43 :: natText (digits.length - 1)

def shortestDigits (value : Nat) : JsString :=
  natText (shortestDecimal value (natText value).length)

/-- `Number::toString` of a natural number that is a double. -/
def doubleText (value : Nat) : JsString :=
  if value ≤ 9007199254740992 then natText value
  else if (shortestDigits value).length ≤ 21 then shortestDigits value
  else exponentText (shortestDigits value)

example : doubleText (2 ^ 60) = js "1152921504606847000" := by
  decide +kernel

example : doubleText (2 ^ 70) = js "1.1805916207174113e+21" := by
  decide +kernel

/-- `Number::toString` of an integer that is a double. -/
def doubleIntText (value : Int) : JsString :=
  if value < 0 then 45 :: doubleText value.natAbs
  else doubleText value.natAbs

theorem doubleIntText_eq {value : Int}
    (small : value.natAbs ≤ 9007199254740992) :
    doubleIntText value = intText value := by
  unfold doubleIntText doubleText
  rw [if_pos small]
  cases value with
  | ofNat natural =>
      exact if_neg (Int.not_lt.mpr (Int.natCast_nonneg natural))
  | negSucc natural =>
      exact if_pos (Int.negSucc_lt_zero natural)

private theorem isAscii_of_isDigit {unit : UInt16}
    (digit : isDigit unit = true) : unit < 128 := by
  simp only [isDigit, Bool.and_eq_true, decide_eq_true_eq,
    UInt16.le_iff_toNat_le, UInt16.lt_iff_toNat_lt] at digit ⊢
  have : (57 : UInt16).toNat < (128 : UInt16).toNat := by decide
  omega

private theorem isAscii_exponentText {digits : JsString}
    (areDigits : ∀ unit ∈ digits, isDigit unit = true) :
    ∀ unit ∈ exponentText digits, unit < 128 := by
  have significant : ∀ unit ∈ (digits.reverse.dropWhile (· = 48)).reverse,
      unit < 128 := by
    intro unit member
    have inDigits := List.mem_reverse.mp
      ((List.dropWhile_sublist _).subset (List.mem_reverse.mp member))
    exact isAscii_of_isDigit (areDigits unit inDigits)
  intro unit member
  simp only [exponentText, List.mem_append, List.mem_cons] at member
  rcases member with (first | rest) | rfl | rfl | exponent
  · exact significant unit (List.mem_of_mem_take first)
  · split_ifs at rest
    · exact nomatch rest
    · rcases List.mem_cons.mp rest with rfl | later
      · decide
      · exact significant unit (List.mem_of_mem_drop later)
  · decide
  · decide
  · exact isAscii_of_isDigit (isDigit_of_mem_natText exponent)

private theorem isAscii_doubleText (value : Nat) :
    ∀ unit ∈ doubleText value, unit < 128 := by
  intro unit member
  have digits : ∀ unit ∈ shortestDigits value, isDigit unit = true :=
    fun _ isUnit => isDigit_of_mem_natText isUnit
  unfold doubleText at member
  split_ifs at member
  · exact isAscii_of_isDigit (isDigit_of_mem_natText member)
  · exact isAscii_of_isDigit (digits unit member)
  · exact isAscii_exponentText digits unit member

theorem isAscii_doubleIntText (value : Int) :
    isAscii (doubleIntText value) = true := by
  rw [isAscii, List.all_eq_true]
  intro unit member
  apply decide_eq_true
  unfold doubleIntText at member
  split_ifs at member
  · rcases List.mem_cons.mp member with rfl | inside
    · decide
    · exact isAscii_doubleText _ unit inside
  · exact isAscii_doubleText _ unit member

end BidayaxExecutive.Runtime
