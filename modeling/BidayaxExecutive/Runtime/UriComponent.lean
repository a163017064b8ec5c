import BidayaxExecutive.Runtime.JsonParse
import BidayaxExecutive.Runtime.Utf8

/-!
# Percent encoding

`encodeURIComponent` writes the UTF-8 bytes of a text, those that are not
unreserved as escapes.  `decodeURIComponent` reads escapes of either case back
and throws where they do not spell characters.
-/

namespace BidayaxExecutive.Runtime

open JsString

/-! ## Encoding -/

def isUnreserved (byte : UInt8) : Bool :=
  (65 ≤ byte && byte ≤ 90) || (97 ≤ byte && byte ≤ 122) ||
    (48 ≤ byte && byte ≤ 57) ||
    [45, 95, 46, 33, 126, 42, 39, 40, 41].contains byte

def percentDigit (digit : Nat) : UInt16 :=
  (if digit < 10 then 48 + digit else 55 + digit).toUInt16

/-- `encodeURIComponent(text)`, of a text without lone surrogates. -/
def encodeURIComponent (text : JsString) : JsString :=
  (utf8 text).flatMap fun byte =>
    if isUnreserved byte then [byte.toUInt16]
    else [37, percentDigit (byte.toNat / 16), percentDigit (byte.toNat % 16)]

/-! ## Decoding -/

def hexOctet? (high low : UInt16) : Option UInt8 :=
  (hexValue? high).bind fun high =>
    (hexValue? low).map fun low => (16 * high + low).toUInt8

/-- The octets of `count` escapes, and the text behind them. -/
def readOctets : Nat → JsString → Option (List UInt8 × JsString)
  | 0, text => some ([], text)
  | count + 1, percent :: high :: low :: rest =>
      if percent = 37 then
        (hexOctet? high low).bind fun octet =>
          (readOctets count rest).map fun (octets, later) =>
            (octet :: octets, later)
      else none
  | _ + 1, _ => none

/-- How many octets a character with this first octet has; a continuation
octet starts none, nor does an octet with more than four leading ones. -/
def octetCount? (lead : UInt8) : Option Nat :=
  if lead.toNat < 0x80 then some 1
  else if lead.toNat < 0xC0 then none
  else if lead.toNat < 0xE0 then some 2
  else if lead.toNat < 0xF0 then some 3
  else if lead.toNat < 0xF8 then some 4
  else none

theorem octetCount?_cases {lead : UInt8} {count : Nat}
    (counted : octetCount? lead = some count) :
    (lead.toNat < 0x80 ∧ count = 1) ∨
      (0xC0 ≤ lead.toNat ∧ lead.toNat < 0xE0 ∧ count = 2) ∨
      (0xE0 ≤ lead.toNat ∧ lead.toNat < 0xF0 ∧ count = 3) ∨
      (0xF0 ≤ lead.toNat ∧ count = 4) := by
  unfold octetCount? at counted
  split_ifs at counted <;> cases counted <;> omega

/-- The octets are valid if they are the encoding of what they decode to. -/
def characterOf? (octets : List UInt8) : Option JsString :=
  if utf8 (utf8Decode octets) = octets then some (utf8Decode octets)
  else none

/-- The character whose escapes start the text. -/
def readCharacter (text : JsString) : Option (JsString × JsString) :=
  (readOctets 1 text).bind fun (leads, _) =>
    (leads.head?.bind octetCount?).bind fun count =>
      (readOctets count text).bind fun (octets, later) =>
        (characterOf? octets).map fun character => (character, later)

theorem readOctets_length :
    ∀ {count : Nat} {text : JsString} {octets : List UInt8}
      {later : JsString}, readOctets count text = some (octets, later) →
      octets.length = count ∧ text.length = 3 * count + later.length
  | 0, text, octets, later, read => by
      cases read
      simp
  | count + 1, [], octets, later, read => nomatch read
  | count + 1, [_], octets, later, read => nomatch read
  | count + 1, [_, _], octets, later, read => nomatch read
  | count + 1, percent :: high :: low :: rest, octets, later, read => by
      rw [readOctets] at read
      by_cases isPercent : percent = 37
      · rw [if_pos isPercent] at read
        obtain ⟨octet, _, tail⟩ := Option.bind_eq_some_iff.mp read
        obtain ⟨⟨others, remaining⟩, found, same⟩ :=
          Option.map_eq_some_iff.mp tail
        have lengths := readOctets_length found
        cases same
        simp only [List.length_cons]
        omega
      · rw [if_neg isPercent] at read
        exact nomatch read

theorem readCharacter_eq_some_iff {text character later : JsString} :
    readCharacter text = some (character, later) ↔
      ∃ lead behind count octets, readOctets 1 text = some ([lead], behind) ∧
        octetCount? lead = some count ∧
        readOctets count text = some (octets, later) ∧
        characterOf? octets = some character := by
  unfold readCharacter
  constructor
  · intro read
    obtain ⟨⟨leads, behind⟩, first, read⟩ := Option.bind_eq_some_iff.mp read
    obtain ⟨count, counted, read⟩ := Option.bind_eq_some_iff.mp read
    obtain ⟨⟨octets, rest⟩, all, read⟩ := Option.bind_eq_some_iff.mp read
    obtain ⟨units, decoded, same⟩ := Option.map_eq_some_iff.mp read
    obtain ⟨lead, single⟩ :=
      List.length_eq_one_iff.mp (readOctets_length first).1
    cases same
    rw [single] at first counted
    exact ⟨lead, behind, count, octets, first, counted, all, decoded⟩
  · intro parts
    obtain ⟨lead, behind, count, octets, first, counted, all, decoded⟩ :=
      parts
    simp [first, counted, all, decoded]

theorem readCharacter_length {text character later : JsString}
    (read : readCharacter text = some (character, later)) :
    later.length < text.length := by
  obtain ⟨lead, behind, count, octets, _, counted, all, _⟩ :=
    readCharacter_eq_some_iff.mp read
  have lengths := readOctets_length all
  have positive := octetCount?_cases counted
  omega

/-- `decodeURIComponent(text)`; `none` is a thrown `URIError`. -/
def decodeURIComponent : JsString → Option JsString
  | [] => some []
  | unit :: rest =>
      if unit = 37 then
        match _ : readCharacter (unit :: rest) with
        | none => none
        | some (character, later) =>
            (decodeURIComponent later).map (character ++ ·)
      else (decodeURIComponent rest).map (unit :: ·)
termination_by text => text.length
decreasing_by
  · exact readCharacter_length ‹_›
  · simp

/-! ## What escapes spell -/

def IsEscaped : List UInt8 → JsString → Prop
  | [], text => text = []
  | octet :: rest, text =>
      ∃ high low later, text = 37 :: high :: low :: later ∧
        hexOctet? high low = some octet ∧ IsEscaped rest later

theorem readOctets_eq_some_iff (octets : List UInt8)
    {later text : JsString} :
    readOctets octets.length text = some (octets, later) ↔
      ∃ escapes, IsEscaped octets escapes ∧ text = escapes ++ later := by
  induction octets generalizing text with
  | nil =>
      simp [readOctets, IsEscaped]
  | cons octet rest inductionHypothesis =>
      constructor
      · intro read
        obtain ⟨high, low, behind, same⟩ :
            ∃ high low behind, text = 37 :: high :: low :: behind := by
          match text, read with
          | percent :: high :: low :: behind, read =>
              rw [List.length_cons, readOctets] at read
              by_cases isPercent : percent = 37
              · exact ⟨high, low, behind, by rw [isPercent]⟩
              · rw [if_neg isPercent] at read
                exact nomatch read
        rw [same, List.length_cons, readOctets, if_pos rfl] at read
        obtain ⟨first, value, tail⟩ := Option.bind_eq_some_iff.mp read
        obtain ⟨⟨others, remaining⟩, found, pair⟩ :=
          Option.map_eq_some_iff.mp tail
        cases pair
        obtain ⟨escapes, escaped, whole⟩ := inductionHypothesis.mp found
        refine ⟨37 :: high :: low :: escapes,
          ⟨high, low, escapes, rfl, value, escaped⟩, ?_⟩
        rw [same, whole]
        rfl
      · intro spelled
        obtain ⟨escapes, escaped, whole⟩ := spelled
        obtain ⟨high, low, behind, same, value, restEscaped⟩ := escaped
        have found := inductionHypothesis.mpr ⟨behind, restEscaped, rfl⟩
        rw [whole, same, List.cons_append, List.cons_append, List.cons_append,
          List.length_cons, readOctets, if_pos rfl, value, found]
        rfl

/-- One code point that is not a surrogate. -/
inductive IsCharacter : JsString → Prop
  | scalar {unit : UInt16} : isSurrogate unit = false → IsCharacter [unit]
  | pair {high low : UInt16} : isHighSurrogate high = true →
      isLowSurrogate low = true → IsCharacter [high, low]

theorem IsCharacter.paired {character : JsString}
    (isCharacter : IsCharacter character) : Paired character := by
  cases isCharacter with
  | scalar plain =>
      exact .scalar plain .nil
  | pair high low =>
      exact .pair high low .nil

/-- The first octet of a unit says how many there are. -/
theorem octetCount?_utf8Unit (unit : UInt16) :
    ∃ lead rest, utf8Unit unit = lead :: rest ∧ lead.toNat < 0xF0 ∧
      octetCount? lead = some (rest.length + 1) := by
  have bound := unit.toNat_lt
  unfold utf8Unit
  split_ifs with oneByte twoBytes surrogate
  · have first := toUInt8_toNat unit.toNat (by omega)
    refine ⟨_, _, rfl, by omega, ?_⟩
    rw [octetCount?, first, if_pos oneByte]
    rfl
  · have first := toUInt8_toNat (0xC0 + unit.toNat / 64) (by omega)
    have notOne : ¬0xC0 + unit.toNat / 64 < 0x80 := by omega
    have notNone : ¬0xC0 + unit.toNat / 64 < 0xC0 := by omega
    have isTwo : 0xC0 + unit.toNat / 64 < 0xE0 := by omega
    refine ⟨_, _, rfl, by omega, ?_⟩
    rw [octetCount?, first, if_neg notOne, if_neg notNone, if_pos isTwo]
    rfl
  · exact ⟨_, _, rfl, by decide, rfl⟩
  · have first := toUInt8_toNat (0xE0 + unit.toNat / 4096) (by omega)
    have notOne : ¬0xE0 + unit.toNat / 4096 < 0x80 := by omega
    have notNone : ¬0xE0 + unit.toNat / 4096 < 0xC0 := by omega
    have notTwo : ¬0xE0 + unit.toNat / 4096 < 0xE0 := by omega
    have isThree : 0xE0 + unit.toNat / 4096 < 0xF0 := by omega
    refine ⟨_, _, rfl, by omega, ?_⟩
    rw [octetCount?, first, if_neg notOne, if_neg notNone, if_neg notTwo,
      if_pos isThree]
    rfl

theorem octetCount?_utf8Pair {high low : UInt16}
    (isHigh : isHighSurrogate high = true)
    (isLow : isLowSurrogate low = true) :
    ∃ lead rest, utf8Pair high low = lead :: rest ∧
      octetCount? lead = some (rest.length + 1) := by
  simp only [isHighSurrogate, isLowSurrogate, Bool.and_eq_true,
    decide_eq_true_eq, UInt16.le_iff_toNat_le] at isHigh isLow
  have highMost : (0xDBFF : UInt16).toNat = 0xDBFF := rfl
  have lowMost : (0xDFFF : UInt16).toNat = 0xDFFF := rfl
  simp only [utf8Pair]
  generalize point :
    0x10000 + (high.toNat - 0xD800) * 1024 + (low.toNat - 0xDC00) =
      codePoint
  have first := toUInt8_toNat (0xF0 + codePoint / 262144) (by omega)
  have notOne : ¬0xF0 + codePoint / 262144 < 0x80 := by omega
  have notNone : ¬0xF0 + codePoint / 262144 < 0xC0 := by omega
  have notTwo : ¬0xF0 + codePoint / 262144 < 0xE0 := by omega
  have notThree : ¬0xF0 + codePoint / 262144 < 0xF0 := by omega
  have isFour : 0xF0 + codePoint / 262144 < 0xF8 := by omega
  refine ⟨_, _, rfl, ?_⟩
  rw [octetCount?, first, if_neg notOne, if_neg notNone, if_neg notTwo,
    if_neg notThree, if_pos isFour]
  rfl

theorem utf8_singleton (unit : UInt16) : utf8 [unit] = utf8Unit unit := by
  rw [utf8]

theorem IsCharacter.octetCount? {character : JsString}
    (isCharacter : IsCharacter character) :
    ∃ lead rest, utf8 character = lead :: rest ∧
      Runtime.octetCount? lead = some (rest.length + 1) := by
  cases isCharacter with
  | scalar plain =>
      obtain ⟨lead, rest, encoded, _, counted⟩ := octetCount?_utf8Unit _
      exact ⟨lead, rest, by rw [utf8_singleton, encoded], counted⟩
  | pair isHigh isLow =>
      obtain ⟨lead, rest, encoded, counted⟩ :=
        octetCount?_utf8Pair isHigh isLow
      refine ⟨lead, rest, ?_, counted⟩
      rw [utf8_pair isHigh isLow, encoded, utf8, List.append_nil]

theorem characterOf?_utf8 {character : JsString}
    (isCharacter : IsCharacter character) :
    characterOf? (utf8 character) = some character := by
  unfold characterOf?
  rw [utf8Decode_utf8 isCharacter.paired, if_pos rfl]

/-- A surrogate is written as the encoding of U+FFFD, which is none. -/
theorem isCharacter_of_three {a b c : UInt8} {unit : UInt16}
    (decoded : unit = ((a.toNat - 0xE0) * 4096 + (b.toNat - 0x80) * 64 +
      (c.toNat - 0x80)).toUInt16)
    (valid : utf8 [unit] = [a, b, c]) : IsCharacter [unit] := by
  by_cases surrogate : isSurrogate unit = true
  · have replaced : utf8Unit unit = [0xEF, 0xBF, 0xBD] := by
      have least : 0x800 ≤ unit.toNat := by
        by_contra small
        rw [isSurrogate_of_lt] at surrogate
        · exact nomatch surrogate
        · rw [UInt16.lt_iff_toNat_lt]
          have bound : (0xD800 : UInt16).toNat = 0xD800 := rfl
          omega
      have notOne : ¬unit.toNat < 0x80 := by omega
      have notTwo : ¬unit.toNat < 0x800 := by omega
      rw [utf8Unit, if_neg notOne, if_neg notTwo, if_pos surrogate]
    rw [utf8_singleton, replaced] at valid
    cases valid
    rw [decoded] at surrogate
    exact absurd surrogate (by decide)
  · exact .scalar (Bool.eq_false_of_not_eq_true surrogate)

/-- No unit has an encoding of four octets. -/
theorem isCharacter_of_four {a b c d : UInt8} {high low : UInt16}
    (four : 0xF0 ≤ a.toNat) (valid : utf8 [high, low] = [a, b, c, d]) :
    IsCharacter [high, low] := by
  by_cases paired : isHighSurrogate high = true ∧ isLowSurrogate low = true
  · exact .pair paired.1 paired.2
  · have apart : utf8 [high, low] = utf8Unit high ++ utf8Unit low := by
      rw [utf8, utf8_singleton, if_neg]
      rw [Bool.and_eq_true]
      exact paired
    obtain ⟨lead, rest, encoded, small, _⟩ := octetCount?_utf8Unit high
    rw [apart, encoded, List.cons_append] at valid
    rw [(List.cons.inj valid).1] at small
    omega

theorem toUInt16_lt {number : Nat} (small : number < 0xD800) :
    number.toUInt16 < 0xD800 := by
  rw [UInt16.lt_iff_toNat_lt, Nat.toUInt16_eq, UInt16.toNat_ofNat']
  have bound : (0xD800 : UInt16).toNat = 0xD800 := rfl
  omega

theorem isCharacter_of_characterOf? {lead : UInt8} {rest : List UInt8}
    {character : JsString}
    (counted : octetCount? lead = some (rest.length + 1))
    (decoded : characterOf? (lead :: rest) = some character) :
    IsCharacter character ∧ utf8 character = lead :: rest := by
  unfold characterOf? at decoded
  by_cases valid : utf8 (utf8Decode (lead :: rest)) = lead :: rest
  · rw [if_pos valid] at decoded
    rw [← Option.some.inj decoded]
    refine ⟨?_, valid⟩
    cases octetCount?_cases counted with
    | inl one =>
        obtain ⟨small, single⟩ := one
        have noRest : rest = [] := List.eq_nil_of_length_eq_zero (by omega)
        rw [noRest, utf8Decode.eq_def]
        simp only [small, if_true, utf8Decode]
        exact .scalar (isSurrogate_of_lt (toUInt16_lt (by omega)))
    | inr more =>
        cases more with
        | inl two =>
            obtain ⟨least, most, double⟩ := two
            obtain ⟨b, same⟩ := List.length_eq_one_iff.mp
              (show rest.length = 1 by omega)
            have bound := b.toNat_lt
            have notOne : ¬lead.toNat < 0x80 := by omega
            rw [same, utf8Decode.eq_def]
            simp only [notOne, most, if_false, if_true, utf8Decode]
            exact .scalar (isSurrogate_of_lt (toUInt16_lt (by omega)))
        | inr longer =>
            cases longer with
            | inl three =>
                obtain ⟨least, most, triple⟩ := three
                obtain ⟨b, c, same⟩ := List.length_eq_two.mp
                  (show rest.length = 2 by omega)
                have notOne : ¬lead.toNat < 0x80 := by omega
                have notTwo : ¬lead.toNat < 0xE0 := by omega
                rw [same, utf8Decode.eq_def] at valid
                rw [same, utf8Decode.eq_def]
                simp only [notOne, notTwo, most, if_false, if_true,
                  utf8Decode] at valid ⊢
                exact isCharacter_of_three rfl valid
            | inr four =>
                obtain ⟨least, quadruple⟩ := four
                obtain ⟨b, c, d, same⟩ := List.length_eq_three.mp
                  (show rest.length = 3 by omega)
                have notOne : ¬lead.toNat < 0x80 := by omega
                have notTwo : ¬lead.toNat < 0xE0 := by omega
                have notThree : ¬lead.toNat < 0xF0 := by omega
                rw [same, utf8Decode.eq_def] at valid
                rw [same, utf8Decode.eq_def]
                simp only [notOne, notTwo, notThree, if_false, utf8Decode]
                  at valid ⊢
                exact isCharacter_of_four least valid
  · rw [if_neg valid] at decoded
    cases decoded

/-- Reading a character is finding the escapes of its encoding. -/
theorem readCharacter_iff_isEscaped {text character later : JsString} :
    readCharacter text = some (character, later) ↔
      IsCharacter character ∧ ∃ escapes,
        IsEscaped (utf8 character) escapes ∧ text = escapes ++ later := by
  rw [readCharacter_eq_some_iff]
  constructor
  · intro parts
    obtain ⟨lead, behind, count, octets, first, counted, all, decoded⟩ :=
      parts
    have positive := octetCount?_cases counted
    have length := (readOctets_length all).1
    obtain ⟨firstEscape, ⟨high, low, _, same, value, _⟩, whole⟩ :=
      (readOctets_eq_some_iff [lead]).mp first
    cases octets with
    | nil =>
        rw [List.length_nil] at length
        omega
    | cons octet rest =>
        rw [← length] at all counted
        obtain ⟨escapes, escaped, wholeAgain⟩ :=
          (readOctets_eq_some_iff _).mp all
        have sameLead : octet = lead := by
          obtain ⟨high', low', _, same', value', _⟩ := escaped
          rw [wholeAgain, same, same'] at whole
          obtain ⟨_, tail⟩ := List.cons.inj whole
          obtain ⟨sameHigh, tail⟩ := List.cons.inj tail
          obtain ⟨sameLow, _⟩ := List.cons.inj tail
          rw [sameHigh, sameLow, value] at value'
          exact (Option.some.inj value').symm
        rw [sameLead] at decoded escaped
        obtain ⟨isCharacter, encoded⟩ :=
          isCharacter_of_characterOf? counted decoded
        rw [← encoded] at escaped
        exact ⟨isCharacter, escapes, escaped, wholeAgain⟩
  · intro spelled
    obtain ⟨isCharacter, escapes, escaped, whole⟩ := spelled
    obtain ⟨lead, rest, encoded, counted⟩ := isCharacter.octetCount?
    have decoded := characterOf?_utf8 isCharacter
    rw [encoded] at escaped decoded
    have all := (readOctets_eq_some_iff _).mpr ⟨escapes, escaped, whole⟩
    obtain ⟨high, low, restEscapes, same, value, _⟩ := escaped
    have first : readOctets [lead].length text =
        some ([lead], restEscapes ++ later) := by
      apply (readOctets_eq_some_iff [lead]).mpr
      exact ⟨[37, high, low], ⟨high, low, [], rfl, value, rfl⟩, by
        rw [whole, same]
        rfl⟩
    exact ⟨lead, _, _, _, first, counted, all, decoded⟩

/-- The text spells the value: what is not a percent sign stands for itself,
and every percent sign starts the escapes of a character. -/
inductive Spells : JsString → JsString → Prop
  | nil : Spells [] []
  | plain {unit : UInt16} {rest value : JsString} : unit ≠ 37 →
      Spells rest value → Spells (unit :: rest) (unit :: value)
  | escaped {character escapes rest value : JsString} :
      IsCharacter character → IsEscaped (utf8 character) escapes →
      Spells rest value → Spells (escapes ++ rest) (character ++ value)

theorem decodeURIComponent_plain {unit : UInt16} (plain : unit ≠ 37)
    (rest : JsString) :
    decodeURIComponent (unit :: rest) =
      (decodeURIComponent rest).map (unit :: ·) := by
  rw [decodeURIComponent, if_neg plain]

theorem decodeURIComponent_character {rest character later : JsString}
    (read : readCharacter (37 :: rest) = some (character, later)) :
    decodeURIComponent (37 :: rest) =
      (decodeURIComponent later).map (character ++ ·) := by
  rw [decodeURIComponent, if_pos rfl]
  split
  · next failed =>
      rw [failed] at read
      exact nomatch read
  · next found =>
      rw [found] at read
      cases read
      rfl

theorem spells_of_decodeURIComponent (text : JsString) :
    ∀ value, decodeURIComponent text = some value → Spells text value := by
  induction text using decodeURIComponent.induct with
  | case1 =>
      intro value decoded
      rw [decodeURIComponent] at decoded
      rw [← Option.some.inj decoded]
      exact .nil
  | case2 rest failed =>
      intro value decoded
      rw [decodeURIComponent, if_pos rfl] at decoded
      split at decoded
      · exact nomatch decoded
      · next found =>
          rw [failed] at found
          exact nomatch found
  | case3 rest character later read inductionHypothesis =>
      intro value decoded
      rw [decodeURIComponent_character read] at decoded
      obtain ⟨tail, found, same⟩ := Option.map_eq_some_iff.mp decoded
      obtain ⟨isCharacter, escapes, escaped, whole⟩ :=
        readCharacter_iff_isEscaped.mp read
      rw [whole, ← same]
      exact .escaped isCharacter escaped (inductionHypothesis tail found)
  | case4 unit rest plain inductionHypothesis =>
      intro value decoded
      rw [decodeURIComponent_plain plain] at decoded
      obtain ⟨tail, found, same⟩ := Option.map_eq_some_iff.mp decoded
      rw [← same]
      exact .plain plain (inductionHypothesis tail found)

/-- Decoding a component is reading what it spells. -/
theorem decodeURIComponent_eq_some_iff {text value : JsString} :
    decodeURIComponent text = some value ↔ Spells text value := by
  constructor
  · exact spells_of_decodeURIComponent text value
  · intro spelled
    induction spelled with
    | nil =>
        rw [decodeURIComponent]
    | plain notPercent _ inductionHypothesis =>
        rw [decodeURIComponent_plain notPercent, inductionHypothesis]
        rfl
    | @escaped character escapes rest value isCharacter isEscaped _
        inductionHypothesis =>
        have read : readCharacter (escapes ++ rest) =
            some (character, rest) :=
          readCharacter_iff_isEscaped.mpr
            ⟨isCharacter, escapes, isEscaped, rfl⟩
        obtain ⟨lead, others, encoded, _⟩ := isCharacter.octetCount?
        rw [encoded] at isEscaped
        obtain ⟨high, low, later, same, _, _⟩ := isEscaped
        rw [same, List.cons_append] at read ⊢
        rw [decodeURIComponent_character read, inductionHypothesis]
        rfl

/-! ## Encoded text -/

theorem encodeURIComponent_append {left : JsString} (paired : Paired left)
    (right : JsString) :
    encodeURIComponent (left ++ right) =
      encodeURIComponent left ++ encodeURIComponent right := by
  unfold encodeURIComponent
  rw [utf8_append paired, List.flatMap_append]

theorem isUnreserved_bounds {byte : UInt8}
    (unreserved : isUnreserved byte = true) :
    33 ≤ byte.toNat ∧ byte.toNat ≤ 126 ∧ byte.toNat ≠ 37 ∧
      byte.toNat ≠ 59 := by
  simp only [isUnreserved, UInt8.le_iff_toNat_le, Bool.or_eq_true,
    Bool.and_eq_true, decide_eq_true_eq, List.contains_eq_mem,
    List.mem_cons, List.not_mem_nil, or_false, ← UInt8.toNat_inj,
    UInt8.toNat_ofNat, Nat.reducePow, Nat.reduceMod] at unreserved
  omega

theorem hexValue?_percentDigit :
    ∀ {digit : Nat}, digit < 16 →
      hexValue? (percentDigit digit) = some digit := by
  decide

theorem percentDigit_bounds :
    ∀ {digit : Nat}, digit < 16 →
      48 ≤ (percentDigit digit).toNat ∧ (percentDigit digit).toNat ≤ 70 ∧
        (percentDigit digit).toNat ≠ 59 := by
  decide

theorem hexOctet?_percentDigit (byte : UInt8) :
    hexOctet? (percentDigit (byte.toNat / 16))
      (percentDigit (byte.toNat % 16)) = some byte := by
  have bound := byte.toNat_lt
  have high := hexValue?_percentDigit (show byte.toNat / 16 < 16 by omega)
  have low := hexValue?_percentDigit (show byte.toNat % 16 < 16 by omega)
  have whole : 16 * (byte.toNat / 16) + byte.toNat % 16 = byte.toNat := by
    omega
  rw [hexOctet?, high, low, Option.bind_some, Option.map_some, whole]
  simp

theorem isEscaped_flatMap {bytes : List UInt8}
    (reserved : ∀ byte ∈ bytes, isUnreserved byte = false) :
    IsEscaped bytes (bytes.flatMap fun byte =>
      if isUnreserved byte then [byte.toUInt16]
      else
        [37, percentDigit (byte.toNat / 16), percentDigit (byte.toNat % 16)])
    := by
  induction bytes with
  | nil =>
      rfl
  | cons byte rest inductionHypothesis =>
      have first : ¬isUnreserved byte = true := by
        rw [reserved byte List.mem_cons_self]
        exact Bool.false_ne_true
      have later := inductionHypothesis fun other member =>
        reserved other (List.mem_cons_of_mem _ member)
      rw [List.flatMap_cons, if_neg first]
      exact ⟨_, _, _, rfl, hexOctet?_percentDigit byte, later⟩

/-- The octets beyond ASCII are never ASCII themselves. -/
theorem utf8Unit_large {unit : UInt16} (large : ¬unit.toNat < 0x80) :
    ∀ byte ∈ utf8Unit unit, 0x80 ≤ byte.toNat := by
  have bound := unit.toNat_lt
  unfold utf8Unit
  rw [if_neg large]
  split_ifs with twoBytes surrogate
  · simp only [List.forall_mem_cons, List.not_mem_nil, false_imp_iff,
      implies_true, and_true]
    constructor
    · rw [toUInt8_toNat _ (by omega)]
      omega
    · rw [toUInt8_toNat _ (by omega)]
      omega
  · simp only [List.forall_mem_cons, List.not_mem_nil, false_imp_iff,
      implies_true, and_true]
    decide
  · simp only [List.forall_mem_cons, List.not_mem_nil, false_imp_iff,
      implies_true, and_true]
    refine ⟨?_, ?_, ?_⟩
    · rw [toUInt8_toNat _ (by omega)]
      omega
    · rw [toUInt8_toNat _ (by omega)]
      omega
    · rw [toUInt8_toNat _ (by omega)]
      omega

theorem utf8Pair_large {high low : UInt16}
    (isHigh : isHighSurrogate high = true)
    (isLow : isLowSurrogate low = true) :
    ∀ byte ∈ utf8Pair high low, 0x80 ≤ byte.toNat := by
  simp only [isHighSurrogate, isLowSurrogate, Bool.and_eq_true,
    decide_eq_true_eq, UInt16.le_iff_toNat_le] at isHigh isLow
  have highMost : (0xDBFF : UInt16).toNat = 0xDBFF := rfl
  have lowMost : (0xDFFF : UInt16).toNat = 0xDFFF := rfl
  simp only [utf8Pair]
  generalize point :
    0x10000 + (high.toNat - 0xD800) * 1024 + (low.toNat - 0xDC00) =
      codePoint
  simp only [List.forall_mem_cons, List.not_mem_nil, false_imp_iff,
    implies_true, and_true]
  refine ⟨?_, ?_, ?_, ?_⟩
  · rw [toUInt8_toNat _ (by omega)]
    omega
  · rw [toUInt8_toNat _ (by omega)]
    omega
  · rw [toUInt8_toNat _ (by omega)]
    omega
  · rw [toUInt8_toNat _ (by omega)]
    omega

theorem not_isUnreserved_of_large {byte : UInt8} (large : 0x80 ≤ byte.toNat) :
    isUnreserved byte = false := by
  by_contra unreserved
  have bounds := isUnreserved_bounds
    (by simpa using unreserved : isUnreserved byte = true)
  omega

theorem spells_encode_append {character rest value : JsString}
    (isCharacter : IsCharacter character)
    (later : Spells rest value) :
    Spells (encodeURIComponent character ++ rest) (character ++ value) := by
  by_cases reserved : ∀ byte ∈ utf8 character, isUnreserved byte = false
  · exact .escaped isCharacter (isEscaped_flatMap reserved) later
  · cases isCharacter with
    | scalar plain =>
        rename_i unit
        rw [utf8_singleton] at reserved
        by_cases small : unit.toNat < 0x80
        · have single : utf8Unit unit = [unit.toNat.toUInt8] := by
            rw [utf8Unit, if_pos small]
          have same := toUInt8_toNat unit.toNat (by omega)
          rw [single] at reserved
          have unreserved : isUnreserved unit.toNat.toUInt8 = true := by
            simpa using reserved
          have bounds := isUnreserved_bounds unreserved
          have back : unit.toNat.toUInt8.toUInt16 = unit := by
            rw [← UInt16.toNat_inj, UInt8.toNat_toUInt16, same]
          have encoded : encodeURIComponent [unit] = [unit] := by
            rw [encodeURIComponent, utf8_singleton, single,
              List.flatMap_singleton, if_pos unreserved, back]
          rw [encoded]
          apply Spells.plain _ later
          intro percent
          rw [percent] at bounds same
          exact bounds.2.2.1 same
        · apply absurd _ reserved
          intro byte member
          exact not_isUnreserved_of_large (utf8Unit_large small byte member)
    | pair isHigh isLow =>
        apply absurd _ reserved
        intro byte member
        rw [utf8_pair isHigh isLow, utf8, List.append_nil] at member
        exact not_isUnreserved_of_large
          (utf8Pair_large isHigh isLow byte member)

/-- Encoded text spells the text. -/
theorem spells_encodeURIComponent {text : JsString} (paired : Paired text) :
    Spells (encodeURIComponent text) text := by
  induction paired with
  | nil =>
      exact .nil
  | @scalar unit rest plain _ inductionHypothesis =>
      have isCharacter := IsCharacter.scalar plain
      have split := encodeURIComponent_append isCharacter.paired rest
      rw [List.singleton_append] at split
      rw [split]
      exact spells_encode_append isCharacter inductionHypothesis
  | @pair high low rest isHigh isLow _ inductionHypothesis =>
      have isCharacter := IsCharacter.pair isHigh isLow
      have split := encodeURIComponent_append isCharacter.paired rest
      rw [List.cons_append, List.singleton_append] at split
      rw [split]
      exact spells_encode_append isCharacter inductionHypothesis

theorem mem_encodeURIComponent {text : JsString} {unit : UInt16}
    (member : unit ∈ encodeURIComponent text) :
    33 ≤ unit.toNat ∧ unit.toNat ≤ 126 ∧ unit.toNat ≠ 59 := by
  obtain ⟨byte, _, inEscape⟩ := List.mem_flatMap.mp member
  have bound := byte.toNat_lt
  by_cases unreserved : isUnreserved byte = true
  · rw [if_pos unreserved, List.mem_singleton] at inEscape
    have bounds := isUnreserved_bounds unreserved
    rw [inEscape, UInt8.toNat_toUInt16]
    exact ⟨bounds.1, bounds.2.1, bounds.2.2.2⟩
  · rw [if_neg unreserved] at inEscape
    have high := percentDigit_bounds (show byte.toNat / 16 < 16 by omega)
    have low := percentDigit_bounds (show byte.toNat % 16 < 16 by omega)
    cases List.mem_cons.mp inEscape with
    | inl percent =>
        rw [percent]
        decide
    | inr digit =>
        cases List.mem_cons.mp digit with
        | inl isHigh =>
            rw [isHigh]
            omega
        | inr isLow =>
            rw [List.mem_singleton.mp isLow]
            omega

end BidayaxExecutive.Runtime
