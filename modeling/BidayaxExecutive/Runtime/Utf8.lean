import BidayaxExecutive.Runtime.JsonText

/-!
# UTF-8 of JavaScript strings

`Buffer.from(text, "utf8")` and `TextEncoder` encode a surrogate pair as one
four-byte sequence and replace a lone surrogate by U+FFFD.  On well-formed
UTF-16 nothing is replaced, so the bytes determine the text.
-/

namespace BidayaxExecutive.Runtime

open JsString

/-- The bytes of one code unit that is not half of a surrogate pair. -/
def utf8Unit (unit : UInt16) : List UInt8 :=
  if unit.toNat < 0x80 then [unit.toNat.toUInt8]
  else if unit.toNat < 0x800 then
    [(0xC0 + unit.toNat / 64).toUInt8, (0x80 + unit.toNat % 64).toUInt8]
  else if isSurrogate unit then [0xEF, 0xBF, 0xBD]
  else
    [(0xE0 + unit.toNat / 4096).toUInt8,
      (0x80 + unit.toNat / 64 % 64).toUInt8,
      (0x80 + unit.toNat % 64).toUInt8]

/-- The bytes of a surrogate pair. -/
def utf8Pair (high low : UInt16) : List UInt8 :=
  let codePoint :=
    0x10000 + (high.toNat - 0xD800) * 1024 + (low.toNat - 0xDC00)
  [(0xF0 + codePoint / 262144).toUInt8,
    (0x80 + codePoint / 4096 % 64).toUInt8,
    (0x80 + codePoint / 64 % 64).toUInt8,
    (0x80 + codePoint % 64).toUInt8]

def utf8 : JsString → List UInt8
  | [] => []
  | [unit] => utf8Unit unit
  | first :: second :: rest =>
      if isHighSurrogate first && isLowSurrogate second then
        utf8Pair first second ++ utf8 rest
      else utf8Unit first ++ utf8 (second :: rest)

/-- A decoder for well-formed input, only used to state that encoding loses
nothing. -/
def utf8Decode : List UInt8 → JsString
  | [] => []
  | a :: rest =>
      if a.toNat < 0x80 then a.toNat.toUInt16 :: utf8Decode rest
      else
        match rest with
        | [] => []
        | b :: rest =>
            if a.toNat < 0xE0 then
              ((a.toNat - 0xC0) * 64 + (b.toNat - 0x80)).toUInt16 ::
                utf8Decode rest
            else
              match rest with
              | [] => []
              | c :: rest =>
                  if a.toNat < 0xF0 then
                    ((a.toNat - 0xE0) * 4096 + (b.toNat - 0x80) * 64 +
                        (c.toNat - 0x80)).toUInt16 :: utf8Decode rest
                  else
                    match rest with
                    | [] => []
                    | d :: rest =>
                        let codePoint :=
                          (a.toNat - 0xF0) * 262144 +
                            (b.toNat - 0x80) * 4096 +
                            (c.toNat - 0x80) * 64 + (d.toNat - 0x80)
                        (0xD800 + (codePoint - 0x10000) / 1024).toUInt16 ::
                          (0xDC00 + (codePoint - 0x10000) % 1024).toUInt16 ::
                            utf8Decode rest

theorem utf8_scalar {unit : UInt16} (plain : isSurrogate unit = false)
    (rest : JsString) :
    utf8 (unit :: rest) = utf8Unit unit ++ utf8 rest := by
  cases rest with
  | nil =>
      simp [utf8]
  | cons next remaining =>
      have notHigh : isHighSurrogate unit = false :=
        (Bool.or_eq_false_iff.mp plain).1
      rw [utf8]
      simp [notHigh]

theorem utf8_pair {high low : UInt16} (isHigh : isHighSurrogate high = true)
    (isLow : isLowSurrogate low = true) (rest : JsString) :
    utf8 (high :: low :: rest) = utf8Pair high low ++ utf8 rest := by
  rw [utf8]
  simp [isHigh, isLow]

/-- Encoding distributes over concatenation after well-formed text. -/
theorem utf8_append {left : JsString} (leftPaired : Paired left)
    (right : JsString) :
    utf8 (left ++ right) = utf8 left ++ utf8 right := by
  induction leftPaired with
  | nil =>
      rfl
  | scalar plain _ inductionHypothesis =>
      rw [List.cons_append, utf8_scalar plain, utf8_scalar plain,
        inductionHypothesis, List.append_assoc]
  | pair high low _ inductionHypothesis =>
      rw [List.cons_append, List.cons_append, utf8_pair high low,
        utf8_pair high low, inductionHypothesis, List.append_assoc]

theorem toUInt8_toNat (number : Nat) (small : number < 256) :
    number.toUInt8.toNat = number := by
  simp only [Nat.toUInt8_eq, UInt8.toNat_ofNat']
  omega

private theorem toUInt16_toNat_eq {number : Nat} (unit : UInt16)
    (equal : number = unit.toNat) :
    number.toUInt16 = unit := by
  subst equal
  simp

private theorem utf8Decode_unit {unit : UInt16}
    (plain : isSurrogate unit = false) (bytes : List UInt8) :
    utf8Decode (utf8Unit unit ++ bytes) = unit :: utf8Decode bytes := by
  have bound := unit.toNat_lt
  unfold utf8Unit
  split_ifs with oneByte twoBytes surrogate
  · have first := toUInt8_toNat unit.toNat (by omega)
    rw [List.cons_append, List.nil_append, utf8Decode.eq_def]
    simp only [first, oneByte, if_true]
    rw [toUInt16_toNat_eq unit rfl]
  · have first := toUInt8_toNat (0xC0 + unit.toNat / 64) (by omega)
    have second :=
      toUInt8_toNat (0x80 + unit.toNat % 64) (by omega)
    have notOne : ¬ 0xC0 + unit.toNat / 64 < 0x80 := by omega
    have isTwo : 0xC0 + unit.toNat / 64 < 0xE0 := by omega
    rw [List.cons_append, List.cons_append, List.nil_append,
      utf8Decode.eq_def]
    simp only [first, second, notOne, isTwo, if_false, if_true]
    rw [toUInt16_toNat_eq unit (by omega)]
  · simp [plain] at surrogate
  · have first :=
      toUInt8_toNat (0xE0 + unit.toNat / 4096) (by omega)
    have second :=
      toUInt8_toNat (0x80 + unit.toNat / 64 % 64) (by omega)
    have third :=
      toUInt8_toNat (0x80 + unit.toNat % 64) (by omega)
    have notOne : ¬ 0xE0 + unit.toNat / 4096 < 0x80 := by omega
    have notTwo : ¬ 0xE0 + unit.toNat / 4096 < 0xE0 := by omega
    have isThree : 0xE0 + unit.toNat / 4096 < 0xF0 := by omega
    rw [List.cons_append, List.cons_append, List.cons_append,
      List.nil_append, utf8Decode.eq_def]
    simp only [first, second, third, notOne, notTwo, isThree, if_false,
      if_true]
    rw [toUInt16_toNat_eq unit (by omega)]

private theorem utf8Decode_pair {high low : UInt16}
    (isHigh : isHighSurrogate high = true)
    (isLow : isLowSurrogate low = true) (bytes : List UInt8) :
    utf8Decode (utf8Pair high low ++ bytes) =
      high :: low :: utf8Decode bytes := by
  simp only [isHighSurrogate, isLowSurrogate, Bool.and_eq_true,
    decide_eq_true_eq, UInt16.le_iff_toNat_le] at isHigh isLow
  have highLeast : (0xD800 : UInt16).toNat = 0xD800 := rfl
  have highMost : (0xDBFF : UInt16).toNat = 0xDBFF := rfl
  have lowLeast : (0xDC00 : UInt16).toNat = 0xDC00 := rfl
  have lowMost : (0xDFFF : UInt16).toNat = 0xDFFF := rfl
  simp only [utf8Pair]
  generalize point :
    0x10000 + (high.toNat - 0xD800) * 1024 + (low.toNat - 0xDC00) =
      codePoint
  have first :=
    toUInt8_toNat (0xF0 + codePoint / 262144) (by omega)
  have second :=
    toUInt8_toNat (0x80 + codePoint / 4096 % 64) (by omega)
  have third :=
    toUInt8_toNat (0x80 + codePoint / 64 % 64) (by omega)
  have fourth := toUInt8_toNat (0x80 + codePoint % 64) (by omega)
  have notOne : ¬ 0xF0 + codePoint / 262144 < 0x80 := by omega
  have notTwo : ¬ 0xF0 + codePoint / 262144 < 0xE0 := by omega
  have notThree : ¬ 0xF0 + codePoint / 262144 < 0xF0 := by omega
  rw [List.cons_append, List.cons_append, List.cons_append,
    List.cons_append, List.nil_append, utf8Decode.eq_def]
  simp only [first, second, third, fourth, notOne, notTwo, notThree,
    if_false]
  rw [toUInt16_toNat_eq high (by omega),
    toUInt16_toNat_eq low (by omega)]

theorem utf8Decode_utf8 {text : JsString} (paired : Paired text) :
    utf8Decode (utf8 text) = text := by
  induction paired with
  | nil =>
      simp [utf8, utf8Decode]
  | scalar plain _ inductionHypothesis =>
      rw [utf8_scalar plain, utf8Decode_unit plain, inductionHypothesis]
  | pair high low _ inductionHypothesis =>
      rw [utf8_pair high low, utf8Decode_pair high low,
        inductionHypothesis]

/-- The bytes of well-formed text determine the text. -/
theorem utf8_injective {left right : JsString}
    (leftPaired : Paired left) (rightPaired : Paired right)
    (sameBytes : utf8 left = utf8 right) :
    left = right := by
  have decoded := congrArg utf8Decode sameBytes
  rwa [utf8Decode_utf8 leftPaired, utf8Decode_utf8 rightPaired] at decoded

/-- `text.toWellFormed()`: a lone surrogate becomes U+FFFD. -/
def toWellFormed : JsString → JsString
  | [] => []
  | [unit] => [if isSurrogate unit then 0xFFFD else unit]
  | first :: second :: rest =>
      if isHighSurrogate first && isLowSurrogate second then
        first :: second :: toWellFormed rest
      else
        (if isSurrogate first then 0xFFFD else first) ::
          toWellFormed (second :: rest)

private theorem isSurrogate_replaced (unit : UInt16) :
    isSurrogate (if isSurrogate unit then 0xFFFD else unit) = false := by
  by_cases lone : isSurrogate unit = true
  · rw [if_pos lone]
    decide
  · rw [if_neg lone]
    exact Bool.eq_false_of_not_eq_true lone

/-- A lone surrogate is encoded like what it becomes. -/
private theorem utf8Unit_replaced (unit : UInt16) :
    utf8Unit (if isSurrogate unit then 0xFFFD else unit) = utf8Unit unit := by
  by_cases lone : isSurrogate unit = true
  · have beyond : ¬unit.toNat < 0x80 ∧ ¬unit.toNat < 0x800 := by
      have bound := lone
      simp only [isSurrogate, isHighSurrogate, isLowSurrogate,
        Bool.or_eq_true, Bool.and_eq_true, decide_eq_true_eq,
        UInt16.le_iff_toNat_le] at bound
      have highLeast : (0xD800 : UInt16).toNat = 0xD800 := rfl
      have lowLeast : (0xDC00 : UInt16).toNat = 0xDC00 := rfl
      omega
    rw [if_pos lone]
    unfold utf8Unit
    rw [if_neg beyond.1, if_neg beyond.2, if_pos lone]
    decide
  · rw [if_neg lone]

theorem paired_toWellFormed (text : JsString) :
    Paired (toWellFormed text) := by
  induction text using toWellFormed.induct with
  | case1 =>
      exact Paired.nil
  | case2 unit =>
      exact Paired.scalar (isSurrogate_replaced unit) Paired.nil
  | case3 first second rest pair inductionHypothesis =>
      have halves := Bool.and_eq_true_iff.mp pair
      rw [toWellFormed, if_pos pair]
      exact Paired.pair halves.1 halves.2 inductionHypothesis
  | case4 first second rest apart inductionHypothesis =>
      rw [toWellFormed, if_neg apart]
      exact Paired.scalar (isSurrogate_replaced first) inductionHypothesis

theorem utf8_toWellFormed (text : JsString) :
    utf8 (toWellFormed text) = utf8 text := by
  induction text using toWellFormed.induct with
  | case1 =>
      rfl
  | case2 unit =>
      exact utf8Unit_replaced unit
  | case3 first second rest pair inductionHypothesis =>
      have halves := Bool.and_eq_true_iff.mp pair
      rw [toWellFormed, if_pos pair, utf8_pair halves.1 halves.2,
        utf8_pair halves.1 halves.2, inductionHypothesis]
  | case4 first second rest apart inductionHypothesis =>
      rw [toWellFormed, if_neg apart,
        utf8_scalar (isSurrogate_replaced first), utf8Unit_replaced,
        inductionHypothesis, utf8, if_neg apart]

theorem toWellFormed_of_paired {text : JsString} (paired : Paired text) :
    toWellFormed text = text :=
  utf8_injective (paired_toWellFormed text) paired (utf8_toWellFormed text)

theorem utf8_ascii {unit : UInt16} (small : unit.toNat < 0x80)
    (rest : JsString) :
    utf8 (unit :: rest) = unit.toNat.toUInt8 :: utf8 rest := by
  have plain : isSurrogate unit = false := by
    apply isSurrogate_of_lt
    rw [UInt16.lt_iff_toNat_lt]
    have : (0xD800 : UInt16).toNat = 0xD800 := rfl
    omega
  rw [utf8_scalar plain]
  simp [utf8Unit, small]

/-- ASCII text has one byte per code unit. -/
theorem length_utf8_of_isAscii {text : JsString}
    (ascii : isAscii text = true) :
    (utf8 text).length = text.length := by
  induction text with
  | nil =>
      rfl
  | cons unit rest inductionHypothesis =>
      simp only [isAscii, List.all_cons, Bool.and_eq_true,
        decide_eq_true_eq] at ascii
      have small : unit.toNat < 0x80 := UInt16.lt_iff_toNat_lt.mp ascii.1
      rw [utf8_ascii small, List.length_cons, inductionHypothesis ascii.2,
        List.length_cons]

/-- Other text starts with a byte that is not ASCII. -/
theorem utf8_not_ascii {unit : UInt16} (large : ¬unit.toNat < 0x80)
    (rest : JsString) :
    ∃ byte later, utf8 (unit :: rest) = byte :: later ∧
      0x80 ≤ byte.toNat := by
  have bound := unit.toNat_lt
  have ofUnit : ∀ later, ∃ byte bytes,
      utf8Unit unit ++ later = byte :: bytes ∧ 0x80 ≤ byte.toNat := by
    intro later
    unfold utf8Unit
    rw [if_neg large]
    split_ifs with twoBytes surrogate
    · refine ⟨_, _, rfl, ?_⟩
      rw [toUInt8_toNat _ (by omega)]
      omega
    · exact ⟨_, _, rfl, by decide⟩
    · refine ⟨_, _, rfl, ?_⟩
      rw [toUInt8_toNat _ (by omega)]
      omega
  cases rest with
  | nil =>
      have alone := ofUnit []
      rw [List.append_nil] at alone
      exact alone
  | cons next rest =>
      rw [utf8]
      by_cases pair : (isHighSurrogate unit && isLowSurrogate next) = true
      · rw [if_pos pair]
        refine ⟨_, _, rfl, ?_⟩
        simp only [isHighSurrogate, isLowSurrogate, Bool.and_eq_true,
          decide_eq_true_eq, UInt16.le_iff_toNat_le] at pair
        have highMost : (0xDBFF : UInt16).toNat = 0xDBFF := rfl
        have lowMost : (0xDFFF : UInt16).toNat = 0xDFFF := rfl
        rw [toUInt8_toNat _ (by omega)]
        omega
      · rw [if_neg pair]
        exact ofUnit (utf8 (next :: rest))

/-- Only ASCII text has the bytes of ASCII text. -/
theorem eq_of_utf8_eq {text ascii : JsString} (isPlain : isAscii ascii = true)
    (sameBytes : utf8 text = utf8 ascii) : text = ascii := by
  induction ascii generalizing text with
  | nil =>
      cases text with
      | nil =>
          rfl
      | cons unit rest =>
          by_cases small : unit.toNat < 0x80
          · rw [utf8_ascii small] at sameBytes
            cases sameBytes
          · obtain ⟨byte, later, bytes, _⟩ := utf8_not_ascii small rest
            rw [bytes] at sameBytes
            cases sameBytes
  | cons expected ascii inductionHypothesis =>
      simp only [isAscii, List.all_cons, Bool.and_eq_true,
        decide_eq_true_eq] at isPlain
      have expectedSmall : expected.toNat < 0x80 :=
        UInt16.lt_iff_toNat_lt.mp isPlain.1
      rw [utf8_ascii expectedSmall] at sameBytes
      cases text with
      | nil =>
          cases sameBytes
      | cons unit rest =>
          by_cases small : unit.toNat < 0x80
          · rw [utf8_ascii small] at sameBytes
            obtain ⟨sameByte, sameRest⟩ := List.cons.inj sameBytes
            have sameUnit := congrArg UInt8.toNat sameByte
            rw [toUInt8_toNat _ (by omega), toUInt8_toNat _ (by omega),
              UInt16.toNat_inj] at sameUnit
            rw [sameUnit, inductionHypothesis isPlain.2 sameRest]
          · obtain ⟨byte, later, bytes, isLarge⟩ := utf8_not_ascii small rest
            rw [bytes] at sameBytes
            have sameByte := (List.cons.inj sameBytes).1
            rw [sameByte, toUInt8_toNat _ (by omega)] at isLarge
            omega

end BidayaxExecutive.Runtime
