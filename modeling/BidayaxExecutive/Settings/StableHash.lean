import BidayaxExecutive.Runtime.Instant
import BidayaxExecutive.Runtime.JsonText
import BidayaxExecutive.Settings.Types

/-!
# The stable hash of the settings package

The 32-bit FNV-1a hash of a stable text: objects are printed with their keys in
the order of `localeCompare`, which is the platform's.  The hash names versions
and events and guards snapshots; it is no cryptographic digest.
-/

namespace BidayaxExecutive.Settings

open BidayaxExecutive.Runtime JsString

/-- What the package takes from the platform: whether `localeCompare` of two
texts is at most zero, and the present time. -/
structure Platform where
  localeLe : JsString → JsString → Bool
  now : TimeValue

/-- `localeCompare` by code units. -/
def codeUnitPlatform : Platform where
  localeLe := codeUnitLe
  now := TimeValue.epoch

/-! ## The stable text -/

/-- The items with commas between them. -/
def commaSeparated : List JsString → JsString
  | [] => []
  | [item] => item
  | item :: rest => item ++ 44 :: commaSeparated rest

section Platform

variable (platform : Platform)

def localeSort {α : Type} (entries : List (JsString × α)) :
    List (JsString × α) :=
  entries.insertionSort fun left right =>
    platform.localeLe left.1 right.1 = true

/-- An object whose values are printed already. -/
def stableObject (entries : List (JsString × JsString)) : JsString :=
  123 :: (commaSeparated
    ((localeSort platform entries).map fun entry =>
      quote entry.1 ++ 58 :: entry.2) ++ [125])

mutual

def stableStringify : Json → JsString
  | .array elements => 91 :: (commaSeparated (stableTexts elements) ++ [93])
  | .object fields => stableObject platform (stableFields fields)
  | value => jsonStringify value

def stableTexts : List Json → List JsString
  | [] => []
  | element :: rest => stableStringify element :: stableTexts rest

def stableFields : List (JsString × Json) → List (JsString × JsString)
  | [] => []
  | (key, value) :: rest => (key, stableStringify value) :: stableFields rest

end

/-- In a template `JSON.stringify(undefined)` is the text `undefined`. -/
def stableText : Option Json → JsString
  | none => js "undefined"
  | some value => stableStringify platform value

def stableMetadata (metadata : EventMetadata) : JsString :=
  stableObject platform <|
    metadata.map fun entry => (entry.1, stableText platform entry.2)

/-- `string | null`. -/
def stableNullable (text : Option JsString) : JsString :=
  match text with
  | none => js "null"
  | some found => quote found

end Platform

/-! ## The hash -/

def fnv1a (text : JsString) : UInt32 :=
  text.foldl (fun hash unit => (hash ^^^ unit.toUInt32) * 0x01000193)
    0x811c9dc5

/-- `(hash >>> 0).toString(16).padStart(8, "0")`. -/
def hashText (hash : UInt32) : JsString :=
  [7, 6, 5, 4, 3, 2, 1, 0].map fun place =>
    hexUnit (hash.toNat / 16 ^ place % 16)

/-- `createSettingsStableHash` of a value with the given stable text. -/
def createSettingsStableHash (text : JsString) : JsString :=
  js "settings-fnv1a-" ++ hashText (fnv1a text)

end BidayaxExecutive.Settings
