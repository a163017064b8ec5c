import BidayaxExecutive.Runtime.JsString

/-!
# Base64url

`Buffer.from(bytes).toString("base64url")` and the decoder
`Buffer.from(text, "base64url")`.  The encoder writes no padding.  The decoder
skips every character outside the alphabet and drops a trailing sextet that
completes no byte.
-/

namespace BidayaxExecutive.Runtime

namespace Base64Url

def sextetUnit (sextet : Nat) : UInt16 :=
  if sextet < 26 then (65 + sextet).toUInt16
  else if sextet < 52 then (71 + sextet).toUInt16
  else if sextet < 62 then (sextet - 4).toUInt16
  else if sextet = 62 then 45
  else 95

/-- The decoder also reads the two characters of the plain alphabet. -/
def sextet? (unit : UInt16) : Option Nat :=
  if 65 ≤ unit ∧ unit ≤ 90 then some (unit.toNat - 65)
  else if 97 ≤ unit ∧ unit ≤ 122 then some (unit.toNat - 71)
  else if 48 ≤ unit ∧ unit ≤ 57 then some (unit.toNat + 4)
  else if unit = 45 ∨ unit = 43 then some 62
  else if unit = 95 ∨ unit = 47 then some 63
  else none

/-- One character of `/^[A-Za-z0-9_-]+$/`. -/
def isUnit (unit : UInt16) : Bool :=
  (65 ≤ unit && unit ≤ 90) || (97 ≤ unit && unit ≤ 122) ||
    (48 ≤ unit && unit ≤ 57) || unit == 95 || unit == 45

/-- `/^[A-Za-z0-9_-]+$/.test(text)`. -/
def isText (text : JsString) : Bool :=
  !text.isEmpty && text.all isUnit

def sextets : List UInt8 → List Nat
  | [] => []
  | [a] => [a.toNat / 4, a.toNat % 4 * 16]
  | [a, b] =>
      [a.toNat / 4, a.toNat % 4 * 16 + b.toNat / 16, b.toNat % 16 * 4]
  | a :: b :: c :: rest =>
      a.toNat / 4 :: (a.toNat % 4 * 16 + b.toNat / 16) ::
        (b.toNat % 16 * 4 + c.toNat / 64) :: c.toNat % 64 :: sextets rest

def bytes : List Nat → List UInt8
  | first :: second :: third :: fourth :: rest =>
      (first * 4 + second / 16).toUInt8 ::
        (second % 16 * 16 + third / 4).toUInt8 ::
        (third % 4 * 64 + fourth).toUInt8 :: bytes rest
  | [first, second, third] =>
      [(first * 4 + second / 16).toUInt8,
        (second % 16 * 16 + third / 4).toUInt8]
  | [first, second] => [(first * 4 + second / 16).toUInt8]
  | _ => []

def encode (data : List UInt8) : JsString :=
  (sextets data).map sextetUnit

def decode (text : JsString) : List UInt8 :=
  bytes (text.filterMap sextet?)

theorem sextet?_sextetUnit :
    ∀ {sextet : Nat}, sextet < 64 →
      sextet? (sextetUnit sextet) = some sextet := by
  decide

theorem isUnit_sextetUnit :
    ∀ {sextet : Nat}, sextet < 64 →
      isUnit (sextetUnit sextet) = true := by
  decide

theorem sextets_lt :
    ∀ {data : List UInt8} {sextet : Nat},
      sextet ∈ sextets data → sextet < 64
  | [], sextet, member => by
      simp [sextets] at member
  | [a], sextet, member => by
      have aBound := a.toNat_lt
      simp only [sextets, List.mem_cons, List.not_mem_nil, or_false] at member
      omega
  | [a, b], sextet, member => by
      have aBound := a.toNat_lt
      have bBound := b.toNat_lt
      simp only [sextets, List.mem_cons, List.not_mem_nil, or_false] at member
      omega
  | a :: b :: c :: rest, sextet, member => by
      have aBound := a.toNat_lt
      have bBound := b.toNat_lt
      have cBound := c.toNat_lt
      simp only [sextets, List.mem_cons] at member
      rcases member with first | second | third | fourth | later
      · omega
      · omega
      · omega
      · omega
      · exact sextets_lt later

private theorem toUInt8_of_eq {number : Nat} (byte : UInt8)
    (equal : number = byte.toNat) :
    number.toUInt8 = byte := by
  subst equal
  exact UInt8.ofNat_toNat

private theorem bytes_sextets :
    ∀ data : List UInt8, bytes (sextets data) = data
  | [] => rfl
  | [a] => by
      have aBound := a.toNat_lt
      rw [sextets, bytes, toUInt8_of_eq a (by omega)]
  | [a, b] => by
      have aBound := a.toNat_lt
      have bBound := b.toNat_lt
      rw [sextets, bytes, toUInt8_of_eq a (by omega),
        toUInt8_of_eq b (by omega)]
  | a :: b :: c :: rest => by
      have aBound := a.toNat_lt
      have bBound := b.toNat_lt
      have cBound := c.toNat_lt
      rw [sextets, bytes, toUInt8_of_eq a (by omega),
        toUInt8_of_eq b (by omega),
        toUInt8_of_eq c (by omega), bytes_sextets rest]

theorem decode_encode (data : List UInt8) :
    decode (encode data) = data := by
  have readBack :
      ∀ values : List Nat, (∀ sextet ∈ values, sextet < 64) →
        (values.map sextetUnit).filterMap sextet? = values := by
    intro values small
    induction values with
    | nil =>
        rfl
    | cons sextet rest inductionHypothesis =>
        have tail := inductionHypothesis fun other member =>
          small other (List.mem_cons_of_mem sextet member)
        rw [List.map_cons, List.filterMap_cons,
          sextet?_sextetUnit (small sextet List.mem_cons_self), tail]
  rw [decode, encode, readBack _ fun _ member => sextets_lt member]
  exact bytes_sextets data

private theorem length_sextets :
    ∀ data : List UInt8,
      (sextets data).length = (data.length * 4 + 2) / 3
  | [] => rfl
  | [_] => by
      simp [sextets]
  | [_, _] => by
      simp [sextets]
  | a :: b :: c :: rest => by
      simp only [sextets, List.length_cons, length_sextets rest]
      omega

theorem length_encode (data : List UInt8) :
    (encode data).length = (data.length * 4 + 2) / 3 := by
  rw [encode, List.length_map, length_sextets]

theorem isUnit_of_mem_encode {data : List UInt8} {unit : UInt16}
    (member : unit ∈ encode data) :
    isUnit unit = true := by
  obtain ⟨sextet, inSextets, rfl⟩ := List.mem_map.mp member
  exact isUnit_sextetUnit (sextets_lt inSextets)

end Base64Url

end BidayaxExecutive.Runtime
