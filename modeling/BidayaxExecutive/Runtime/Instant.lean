import Mathlib.Tactic.SplitIfs
import BidayaxExecutive.Runtime.Decimal

/-!
# Time values and their ISO text

`toISOString` prints a time value in the proleptic Gregorian calendar: four
year digits from year 0 to 9999, a sign and six digits outside.  Years of
calendar arithmetic start in March, so that the leap day ends a year.

`Date.parse` is left to the host: ECMA-262 fixes it only on its own date-time
format.  `isoParse` is the part of it that reads that format with an explicit
offset, and it inverts `toISOString`.
-/

namespace BidayaxExecutive.Runtime

open JsString

/-- A time value of ECMA-262: milliseconds within 10^8 days of the epoch. -/
structure TimeValue where
  milliseconds : Int
  lower : -8640000000000000 ≤ milliseconds
  upper : milliseconds ≤ 8640000000000000
  deriving DecidableEq, Repr

def TimeValue.ofMilliseconds? (milliseconds : Int) : Option TimeValue :=
  if bounds : -8640000000000000 ≤ milliseconds ∧
      milliseconds ≤ 8640000000000000 then
    some ⟨milliseconds, bounds.1, bounds.2⟩
  else none

/-- `new Date(0)`. -/
def TimeValue.epoch : TimeValue :=
  ⟨0, by decide, by decide⟩

/-! ## Calendar -/

structure CivilDate where
  year : Int
  month : Int
  day : Int
  deriving DecidableEq, Repr

/-- Days from the first of March of an era's year zero to that of `year`. -/
def daysBeforeYear (year : Int) : Int :=
  year / 100 * 36524 + year % 100 / 4 * 1461 + year % 4 * 365

/-- The year of a 400-year era that the given day of the era falls in: the
last century and the last year of a leap cycle are one day longer. -/
def yearOfEra (dayOfEra : Int) : Int :=
  let century := min (dayOfEra / 36524) 3
  let cycle := (dayOfEra - century * 36524) / 1461
  let day := dayOfEra - century * 36524 - cycle * 1461
  century * 100 + cycle * 4 + min (day / 365) 3

/-- The date of a day of a March-based year of an era. -/
def civilOfParts (era year dayOfYear : Int) : CivilDate :=
  let shifted := (5 * dayOfYear + 2) / 153
  let month := if shifted < 10 then shifted + 3 else shifted - 9
  { year := year + era * 400 + if month ≤ 2 then 1 else 0
    month := month
    day := dayOfYear - (153 * shifted + 2) / 5 + 1 }

def civilOfDays (days : Int) : CivilDate :=
  let dayOfEra := (days + 719468) % 146097
  let year := yearOfEra dayOfEra
  civilOfParts ((days + 719468) / 146097) year
    (dayOfEra - daysBeforeYear year)

def daysOfCivil (date : CivilDate) : Int :=
  let year := if date.month ≤ 2 then date.year - 1 else date.year
  let shifted := if date.month ≤ 2 then date.month + 9 else date.month - 3
  year / 400 * 146097 + daysBeforeYear (year % 400) +
    ((153 * shifted + 2) / 5 + date.day - 1) - 719468

theorem yearOfEra_bounds (dayOfEra : Int) (least : 0 ≤ dayOfEra)
    (most : dayOfEra < 146097) :
    0 ≤ yearOfEra dayOfEra ∧ yearOfEra dayOfEra < 400 := by
  simp only [yearOfEra]
  omega

theorem dayOfYear_bounds (dayOfEra : Int) (least : 0 ≤ dayOfEra)
    (most : dayOfEra < 146097) :
    0 ≤ dayOfEra - daysBeforeYear (yearOfEra dayOfEra) ∧
      dayOfEra - daysBeforeYear (yearOfEra dayOfEra) ≤ 365 := by
  simp only [yearOfEra]
  generalize centuryEq : min (dayOfEra / 36524) 3 = century
  generalize cycleEq : (dayOfEra - century * 36524) / 1461 = cycle
  generalize yearEq :
    min ((dayOfEra - century * 36524 - cycle * 1461) / 365) 3 = year
  have centuryBounds : 0 ≤ century ∧ century ≤ 3 := by omega
  have cycleBounds : 0 ≤ cycle ∧ cycle ≤ 24 := by omega
  have yearBounds : 0 ≤ year ∧ year ≤ 3 := by omega
  have centuryPart : (century * 100 + cycle * 4 + year) / 100 = century := by
    omega
  have cyclePart :
      (century * 100 + cycle * 4 + year) % 100 / 4 = cycle := by
    omega
  have yearPart : (century * 100 + cycle * 4 + year) % 4 = year := by
    omega
  simp only [daysBeforeYear, centuryPart, cyclePart, yearPart]
  omega

private theorem civilOfParts_bounds {era year dayOfYear : Int}
    (least : 0 ≤ dayOfYear) (most : dayOfYear ≤ 365) :
    1 ≤ (civilOfParts era year dayOfYear).month ∧
      (civilOfParts era year dayOfYear).month ≤ 12 ∧
      1 ≤ (civilOfParts era year dayOfYear).day ∧
      (civilOfParts era year dayOfYear).day ≤ 31 := by
  simp only [civilOfParts]
  split_ifs <;> omega

private theorem daysOfCivil_civilOfParts {era year dayOfYear : Int}
    (yearLeast : 0 ≤ year) (yearMost : year < 400)
    (least : 0 ≤ dayOfYear) (most : dayOfYear ≤ 365) :
    daysOfCivil (civilOfParts era year dayOfYear) =
      era * 146097 + daysBeforeYear year + dayOfYear - 719468 := by
  have early :
      (year + era * 400 + 1 - 1) / 400 = era ∧
        (year + era * 400 + 1 - 1) % 400 = year := by
    omega
  have late :
      (year + era * 400 + 0) / 400 = era ∧
        (year + era * 400 + 0) % 400 = year := by
    omega
  simp only [daysOfCivil, civilOfParts]
  by_cases inSpring : (5 * dayOfYear + 2) / 153 < 10
  · have notFirst : ¬ (5 * dayOfYear + 2) / 153 + 3 ≤ 2 := by omega
    simp only [inSpring, notFirst, if_true, if_false, late.1, late.2]
    omega
  · have first : (5 * dayOfYear + 2) / 153 - 9 ≤ 2 := by omega
    simp only [inSpring, first, if_true, if_false, early.1, early.2]
    omega

/-- Every part of a civil date fits the width it is printed in. -/
theorem civilOfDays_bounds (days : Int) :
    1 ≤ (civilOfDays days).month ∧ (civilOfDays days).month ≤ 12 ∧
      1 ≤ (civilOfDays days).day ∧ (civilOfDays days).day ≤ 31 := by
  have bounds := dayOfYear_bounds
    ((days + 719468) % 146097) (by omega) (by omega)
  exact civilOfParts_bounds bounds.1 bounds.2

theorem daysOfCivil_civilOfDays (days : Int) :
    daysOfCivil (civilOfDays days) = days := by
  have yearBounds := yearOfEra_bounds
    ((days + 719468) % 146097) (by omega) (by omega)
  have dayBounds := dayOfYear_bounds
    ((days + 719468) % 146097) (by omega) (by omega)
  have era := Int.mul_ediv_add_emod (days + 719468) 146097
  rw [civilOfDays, daysOfCivil_civilOfParts yearBounds.1 yearBounds.2
    dayBounds.1 dayBounds.2]
  omega

theorem civilOfDays_year_bounds (days : Int) (least : -100000000 ≤ days)
    (most : days ≤ 100000000) :
    -999999 ≤ (civilOfDays days).year ∧
      (civilOfDays days).year ≤ 999999 := by
  have yearBounds := yearOfEra_bounds
    ((days + 719468) % 146097) (by omega) (by omega)
  simp only [civilOfDays, civilOfParts]
  generalize yearOfEra ((days + 719468) % 146097) = year at yearBounds ⊢
  split_ifs <;> omega

/-! ## ISO text -/

/-- Four digits for the years 0 to 9999, else a sign and six digits. -/
def yearText (year : Int) : JsString :=
  if 0 ≤ year ∧ year ≤ 9999 then fixedText 4 year.toNat
  else if year < 0 then 45 :: fixedText 6 (-year).toNat
  else 43 :: fixedText 6 year.toNat

/-- `Date.prototype.toISOString`. -/
def toISOString (time : TimeValue) : JsString :=
  let date := civilOfDays (time.milliseconds / 86400000)
  let rest := (time.milliseconds % 86400000).toNat
  yearText date.year ++ 45 :: (fixedText 2 date.month.toNat ++
    45 :: (fixedText 2 date.day.toNat ++
    84 :: (fixedText 2 (rest / 3600000) ++
    58 :: (fixedText 2 (rest / 60000 % 60) ++
    58 :: (fixedText 2 (rest / 1000 % 60) ++
    46 :: (fixedText 3 (rest % 1000) ++ [90]))))))

private theorem isAscii_append {left right : JsString}
    (leftAscii : isAscii left = true) (rightAscii : isAscii right = true) :
    isAscii (left ++ right) = true := by
  simp only [isAscii, List.all_append, Bool.and_eq_true] at *
  exact ⟨leftAscii, rightAscii⟩

private theorem isAscii_fixedText (width number : Nat) :
    isAscii (fixedText width number) = true := by
  rw [isAscii, List.all_eq_true]
  intro unit member
  have digit := isDigit_of_mem_fixedText member
  simp only [isDigit, Bool.and_eq_true, decide_eq_true_eq,
    UInt16.le_iff_toNat_le, UInt16.lt_iff_toNat_lt] at digit ⊢
  have : (57 : UInt16).toNat < (128 : UInt16).toNat := by decide
  omega

private theorem isAscii_cons_fixed {unit : UInt16} {rest : JsString}
    (width number : Nat) (small : unit < 128)
    (restAscii : isAscii rest = true) :
    isAscii (unit :: (fixedText width number ++ rest)) = true := by
  have whole := isAscii_append (isAscii_fixedText width number) restAscii
  simp only [isAscii, List.all_cons, Bool.and_eq_true, decide_eq_true_eq]
  exact ⟨small, whole⟩

private theorem isAscii_yearText (year : Int) :
    isAscii (yearText year) = true := by
  unfold yearText
  split_ifs
  · exact isAscii_fixedText 4 _
  · have signed := isAscii_cons_fixed 6 (-year).toNat
      (by decide : (45 : UInt16) < 128) (by rfl : isAscii [] = true)
    simpa using signed
  · have signed := isAscii_cons_fixed 6 year.toNat
      (by decide : (43 : UInt16) < 128) (by rfl : isAscii [] = true)
    simpa using signed

theorem isAscii_toISOString (time : TimeValue) :
    isAscii (toISOString time) = true := by
  simp only [toISOString]
  apply isAscii_append (isAscii_yearText _)
  repeat apply isAscii_cons_fixed _ _ (by decide)
  rfl

theorem toISOString_ne_nil (time : TimeValue) : toISOString time ≠ [] := by
  simp [toISOString]

/-! ## Reading ISO text -/

def readFixed (width : Nat) (text : JsString) : Option (Nat × JsString) :=
  if (text.take width).length = width ∧ (text.take width).all isDigit then
    some (digitsValue 0 (text.take width), text.drop width)
  else none

def expectUnit (unit : UInt16) : JsString → Option JsString
  | [] => none
  | first :: rest => if first = unit then some rest else none

private theorem expectUnit_self (unit : UInt16) (rest : JsString) :
    expectUnit unit (unit :: rest) = some rest := by
  simp [expectUnit]

/-- Year `-000000` is refused. -/
def readYear : JsString → Option (Int × JsString)
  | [] => none
  | unit :: rest =>
      if unit = 45 then
        (readFixed 6 rest).bind fun (year, text) =>
          if year = 0 then none else some (-(year : Int), text)
      else if unit = 43 then
        (readFixed 6 rest).map fun (year, text) => ((year : Int), text)
      else
        (readFixed 4 (unit :: rest)).map fun (year, text) =>
          ((year : Int), text)

/-- Milliseconds of an optional fraction; further digits are dropped. -/
def readFraction : JsString → Option (Nat × JsString)
  | [] => some (0, [])
  | unit :: rest =>
      if unit = 46 then
        if (rest.takeWhile isDigit).isEmpty then none
        else
          some (digitsValue 0 ((rest.takeWhile isDigit ++ [48, 48]).take 3),
            rest.dropWhile isDigit)
      else some (0, unit :: rest)

/-- Minutes east of UTC. -/
def readOffset : JsString → Option Int
  | [] => none
  | unit :: rest =>
      if unit = 90 then if rest = [] then some 0 else none
      else if unit = 43 ∨ unit = 45 then
        (readFixed 2 rest).bind fun (hours, text) =>
        (expectUnit 58 text).bind fun text =>
        (readFixed 2 text).bind fun (minutes, text) =>
          if hours ≤ 23 ∧ minutes ≤ 59 ∧ text = [] then
            some <| (if unit = 45 then -1 else 1) * (hours * 60 + minutes : Nat)
          else none
      else none

/-- Date-time text with an explicit offset.  A day past the end of its month
runs into the next one, and `24:00:00` is the end of a day. -/
def isoParse (text : JsString) : Option TimeValue :=
  (readYear text).bind fun (year, text) =>
  (expectUnit 45 text).bind fun text =>
  (readFixed 2 text).bind fun (month, text) =>
  (expectUnit 45 text).bind fun text =>
  (readFixed 2 text).bind fun (day, text) =>
  (expectUnit 84 text).bind fun text =>
  (readFixed 2 text).bind fun (hour, text) =>
  (expectUnit 58 text).bind fun text =>
  (readFixed 2 text).bind fun (minute, text) =>
  (expectUnit 58 text).bind fun text =>
  (readFixed 2 text).bind fun (second, text) =>
  (readFraction text).bind fun (millisecond, text) =>
  (readOffset text).bind fun offset =>
    if 1 ≤ month ∧ month ≤ 12 ∧ 1 ≤ day ∧ day ≤ 31 ∧ minute ≤ 59 ∧
        second ≤ 59 ∧
        (hour ≤ 23 ∨
          hour = 24 ∧ minute = 0 ∧ second = 0 ∧ millisecond = 0) then
      TimeValue.ofMilliseconds? <|
        daysOfCivil ⟨year, month, day⟩ * 86400000 + hour * 3600000 +
          minute * 60000 + second * 1000 + millisecond - offset * 60000
    else none

theorem readFixed_fixedText {width number : Nat} (rest : JsString)
    (fits : number < 10 ^ width) :
    readFixed width (fixedText width number ++ rest) =
      some (number, rest) := by
  have taken : (fixedText width number ++ rest).take width =
      fixedText width number :=
    List.take_left' (length_fixedText width number)
  have dropped : (fixedText width number ++ rest).drop width = rest :=
    List.drop_left' (length_fixedText width number)
  have digits : (fixedText width number).all isDigit = true := by
    rw [List.all_eq_true]
    intro unit member
    exact isDigit_of_mem_fixedText member
  simp [readFixed, taken, dropped, digits, digitsValue_fixedText fits]

private theorem readYear_yearText {year : Int} (rest : JsString)
    (least : -999999 ≤ year) (most : year ≤ 999999) :
    readYear (yearText year ++ rest) = some (year, rest) := by
  unfold yearText
  split_ifs with short negative
  · have digits : readFixed 4 (fixedText 4 year.toNat ++ rest) =
        some (year.toNat, rest) :=
      readFixed_fixedText rest (by omega)
    obtain ⟨unit, remaining, shape⟩ :
        ∃ unit remaining, fixedText 4 year.toNat = unit :: remaining := by
      cases shape : fixedText 4 year.toNat with
      | nil =>
          have := length_fixedText 4 year.toNat
          simp [shape] at this
      | cons unit remaining => exact ⟨unit, remaining, rfl⟩
    have isNumeral : isDigit unit = true := by
      have member : unit ∈ fixedText 4 year.toNat := by
        rw [shape]
        exact List.mem_cons_self
      exact isDigit_of_mem_fixedText member
    have notMinus : unit ≠ 45 := by
      rintro rfl
      revert isNumeral
      decide
    have notPlus : unit ≠ 43 := by
      rintro rfl
      revert isNumeral
      decide
    rw [shape, List.cons_append] at digits ⊢
    rw [readYear]
    simp only [notMinus, notPlus, if_false, digits, Option.map_some,
      Option.some.injEq, Prod.mk.injEq, and_true]
    omega
  · have digits : readFixed 6 (fixedText 6 (-year).toNat ++ rest) =
        some ((-year).toNat, rest) :=
      readFixed_fixedText rest (by omega)
    rw [List.cons_append, readYear]
    have nonzero : (-year).toNat ≠ 0 := by omega
    simp only [if_true, digits, Option.bind_some, nonzero, if_false,
      Option.some.injEq, Prod.mk.injEq, and_true]
    omega
  · have digits : readFixed 6 (fixedText 6 year.toNat ++ rest) =
        some (year.toNat, rest) :=
      readFixed_fixedText rest (by omega)
    have notMinus : (43 : UInt16) ≠ 45 := by decide
    rw [List.cons_append, readYear]
    simp only [notMinus, if_false, if_true, digits, Option.map_some,
      Option.some.injEq, Prod.mk.injEq, and_true]
    omega

private theorem readFraction_fixedText {number : Nat} (rest : JsString)
    (small : number < 1000) (boundary : ∀ unit ∈ rest.head?,
      isDigit unit = false) :
    readFraction (46 :: (fixedText 3 number ++ rest)) =
      some (number, rest) := by
  have digits : ∀ unit ∈ fixedText 3 number, isDigit unit = true :=
    fun unit member => isDigit_of_mem_fixedText member
  have taken :
      (fixedText 3 number ++ rest).takeWhile isDigit = fixedText 3 number := by
    rw [List.takeWhile_append_of_pos digits]
    cases rest with
    | nil => simp
    | cons unit remaining => simp [boundary unit (by simp)]
  have dropped : (fixedText 3 number ++ rest).dropWhile isDigit = rest := by
    rw [List.dropWhile_append_of_pos digits]
    cases rest with
    | nil => simp
    | cons unit remaining => simp [boundary unit (by simp)]
  have nonempty : (fixedText 3 number).isEmpty = false := by
    have width := length_fixedText 3 number
    cases shape : fixedText 3 number with
    | nil => simp [shape] at width
    | cons _ _ => rfl
  have firstThree :
      (fixedText 3 number ++ [48, 48]).take 3 = fixedText 3 number :=
    List.take_left' (length_fixedText 3 number)
  rw [readFraction]
  simp only [if_true, taken, dropped, nonempty, firstThree,
    Bool.false_eq_true, if_false]
  rw [digitsValue_fixedText (by simpa using small)]

/-- Reading the ISO text of a time value gives the time value back. -/
theorem isoParse_toISOString (time : TimeValue) :
    isoParse (toISOString time) = some time := by
  obtain ⟨milliseconds, lower, upper⟩ := time
  have dateBounds := civilOfDays_bounds (milliseconds / 86400000)
  have yearBounds := civilOfDays_year_bounds
    (milliseconds / 86400000) (by omega) (by omega)
  have days := daysOfCivil_civilOfDays (milliseconds / 86400000)
  generalize dateEq : civilOfDays (milliseconds / 86400000) = date at *
  generalize restEq : (milliseconds % 86400000).toNat = rest
  have restBound : rest < 86400000 := by omega
  have rebuilt : (⟨date.year, (date.month.toNat : Int),
      (date.day.toNat : Int)⟩ : CivilDate) = date := by
    have monthEq : (date.month.toNat : Int) = date.month := by omega
    have dayEq : (date.day.toNat : Int) = date.day := by omega
    rw [monthEq, dayEq]
  have instant :
      daysOfCivil date * 86400000 + ((rest / 3600000 : Nat) : Int) * 3600000 +
        ((rest / 60000 % 60 : Nat) : Int) * 60000 +
        ((rest / 1000 % 60 : Nat) : Int) * 1000 + ((rest % 1000 : Nat) : Int) -
        0 * 60000 = milliseconds := by
    rw [days]
    omega
  simp only [toISOString, dateEq, restEq]
  rw [isoParse, readYear_yearText _ yearBounds.1 yearBounds.2,
    Option.bind_some]
  simp only [expectUnit_self, Option.bind_some]
  rw [readFixed_fixedText _ (by omega), Option.bind_some]
  simp only [expectUnit_self, Option.bind_some]
  rw [readFixed_fixedText _ (by omega), Option.bind_some]
  simp only [expectUnit_self, Option.bind_some]
  rw [readFixed_fixedText _ (by omega), Option.bind_some]
  simp only [expectUnit_self, Option.bind_some]
  rw [readFixed_fixedText _ (by omega), Option.bind_some]
  simp only [expectUnit_self, Option.bind_some]
  rw [readFixed_fixedText _ (by omega), Option.bind_some]
  simp only
  rw [readFraction_fixedText [90] (by omega) (by simp [isDigit]),
    Option.bind_some]
  simp only [readOffset, if_true, Option.bind_some, rebuilt]
  rw [if_pos (by omega), instant, TimeValue.ofMilliseconds?,
    dif_pos ⟨lower, upper⟩]

theorem milliseconds_isoParse_nil :
    (isoParse []).map (fun time => time.milliseconds) = none := by
  decide

/-! ## The host -/

/-- `ed25519Verify key data signature` is the answer of
`verify(null, data, createPublicKey(key), signature)` for an SPKI key in
base64url; `none` is an exception. -/
structure Host where
  nfc : JsString → JsString
  nfc_nfc : ∀ text, nfc (nfc text) = nfc text
  nfc_of_isAscii : ∀ text, isAscii text = true → nfc text = text
  dateParse : JsString → Option TimeValue
  dateParse_toISOString :
    ∀ time, dateParse (toISOString time) = some time
  ed25519Verify : JsString → List UInt8 → List UInt8 → Option Bool

/-- A host for ASCII text and ISO dates whose signature check accepts the
recorded triples. -/
def recordedHost
    (accepted : List (JsString × List UInt8 × List UInt8)) : Host where
  nfc := id
  nfc_nfc _ := rfl
  nfc_of_isAscii _ _ := rfl
  dateParse := isoParse
  dateParse_toISOString := isoParse_toISOString
  ed25519Verify key data signature :=
    some (accepted.contains (key, data, signature))

end BidayaxExecutive.Runtime
