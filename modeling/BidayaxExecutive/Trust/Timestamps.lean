import BidayaxExecutive.Trust.CanonicalForm

/-!
# Canonical timestamps

A canonical timestamp is the ISO text of an instant.  The pattern that admits
timestamps has a year of four digits, so the canonical timestamp of an instant
is itself admitted exactly for the years 0 to 9999; the offset of a timestamp
can move its instant out of them.
-/

namespace BidayaxExecutive.Trust

open BidayaxExecutive.Runtime JsString

section Host

variable (host : Host)

/-- The instant of the canonical timestamp of a text. -/
def occurrence (text : JsString) : Option TimeValue :=
  host.dateParse (host.nfc text)

theorem canonicalUtcTimestamp_eq_ok {text timestamp : JsString} :
    canonicalUtcTimestamp host text = .ok timestamp ↔
      timestampPattern (host.nfc text) = true ∧
        ∃ time, occurrence host text = some time ∧
          timestamp = toISOString time := by
  unfold canonicalUtcTimestamp normalizeString occurrence
  by_cases stamp : timestampPattern (host.nfc text) = true
  · cases read : host.dateParse (host.nfc text) with
    | none =>
        simp [stamp, read]
    | some time =>
        simp [stamp, read, eq_comm]
  · simp [stamp]

variable {host}

theorem normalText_of_canonicalUtcTimestamp {text timestamp : JsString}
    (canonical : canonicalUtcTimestamp host text = .ok timestamp) :
    NormalText host timestamp := by
  rcases (canonicalUtcTimestamp_eq_ok host).mp canonical with ⟨_, time, _, rfl⟩
  exact normalText_toISOString host time

theorem normalizeString_of_canonicalUtcTimestamp
    {text timestamp : JsString}
    (canonical : canonicalUtcTimestamp host text = .ok timestamp) :
    normalizeString host text = .ok timestamp := by
  have stamp := ((canonicalUtcTimestamp_eq_ok host).mp canonical).1
  rw [canonicalUtcTimestamp, if_pos stamp] at canonical
  exact canonical

end Host

/-! ## The years of the pattern -/

/-- The UTC year of the instant has four digits. -/
def FourDigitYear (time : TimeValue) : Prop :=
  0 ≤ (civilOfDays (time.milliseconds / 86400000)).year ∧
    (civilOfDays (time.milliseconds / 86400000)).year ≤ 9999

instance (time : TimeValue) : Decidable (FourDigitYear time) :=
  inferInstanceAs (Decidable (_ ∧ _))

private theorem skipDigits_fixedText (width number : Nat) (rest : JsString) :
    skipDigits width (fixedText width number ++ rest) = some rest := by
  have length := length_fixedText width number
  have digits : (fixedText width number).all isDigit = true := by
    rw [List.all_eq_true]
    intro unit member
    exact isDigit_of_mem_fixedText member
  simp [skipDigits, readFixed, List.take_left' length,
    List.drop_left' length, length, digits]

private theorem expectUnit_cons (unit : UInt16) (rest : JsString) :
    expectUnit unit (unit :: rest) = some rest := by
  simp [expectUnit]

private theorem skipFraction_milliseconds (number : Nat) :
    skipFraction (46 :: (fixedText 3 number ++ [90])) = some [90] := by
  have digits : ∀ unit ∈ fixedText 3 number, isDigit unit = true :=
    fun unit member => isDigit_of_mem_fixedText member
  have zone : isDigit 90 = false := by decide
  have run : (fixedText 3 number ++ [90]).takeWhile isDigit =
      fixedText 3 number := by
    rw [List.takeWhile_append_of_pos digits]
    simp [zone]
  have rest : (fixedText 3 number ++ [90]).dropWhile isDigit = [90] := by
    rw [List.dropWhile_append_of_pos digits]
    simp [zone]
  simp [skipFraction, run, rest, length_fixedText]

/-- What follows the year is the same for every year. -/
private theorem timestampPattern_of_year (year month day hour minute second
    milliseconds : Nat) :
    timestampPattern (fixedText 4 year ++ 45 :: (fixedText 2 month ++
      45 :: (fixedText 2 day ++ 84 :: (fixedText 2 hour ++
      58 :: (fixedText 2 minute ++ 58 :: (fixedText 2 second ++
      46 :: (fixedText 3 milliseconds ++ [90]))))))) = true := by
  simp only [timestampPattern, skipDateTime, skipDigits_fixedText,
    expectUnit_cons, Option.bind_some, skipFraction_milliseconds]
  decide

private theorem timestampPattern_of_sign {sign : UInt16}
    (signed : isDigit sign = false) (rest : JsString) :
    timestampPattern (sign :: rest) = false := by
  have unread : skipDigits 4 (sign :: rest) = none := by
    simp [skipDigits, readFixed, signed]
  simp [timestampPattern, skipDateTime, unread]

theorem timestampPattern_toISOString_iff (time : TimeValue) :
    timestampPattern (toISOString time) = true ↔ FourDigitYear time := by
  unfold FourDigitYear
  simp only [toISOString]
  generalize civilOfDays (time.milliseconds / 86400000) = date
  unfold yearText
  by_cases four : 0 ≤ date.year ∧ date.year ≤ 9999
  · rw [if_pos four]
    exact iff_of_true (timestampPattern_of_year _ _ _ _ _ _ _) four
  · rw [if_neg four]
    refine iff_of_false ?_ four
    by_cases negative : date.year < 0
    · rw [if_pos negative, List.cons_append,
        timestampPattern_of_sign (by decide)]
      simp
    · rw [if_neg negative, List.cons_append,
        timestampPattern_of_sign (by decide)]
      simp

/-- The canonical timestamp is canonicalized again exactly in those years. -/
theorem canonicalUtcTimestamp_toISOString_iff (host : Host)
    (time : TimeValue) :
    canonicalUtcTimestamp host (toISOString time) = .ok (toISOString time) ↔
      FourDigitYear time := by
  rw [canonicalUtcTimestamp_eq_ok, occurrence,
    host.nfc_of_isAscii _ (isAscii_toISOString time),
    host.dateParse_toISOString, timestampPattern_toISOString_iff]
  simp

end BidayaxExecutive.Trust
