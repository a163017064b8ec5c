import BidayaxExecutive.Library.Arrangements
import BidayaxExecutive.Runtime.JsMap
import BidayaxExecutive.Runtime.Sha1
import BidayaxExecutive.Telephony.SandboxWebhooks

/-!
# Webhooks of Twilio

Twilio signs the URL of a webhook followed by the name and the value of every
parameter, with the names in the order of their code units.  The validator puts
the names in the order of `localeCompare`, so it signs the same text when the
two orders agree on the names of the request.
-/

namespace BidayaxExecutive.Telephony

open BidayaxExecutive.Runtime JsString
open BidayaxExecutive.Library.Arrangements

/-! ## The validator -/

/-- The parameters are listed as `Object.entries` lists them. -/
structure TwilioWebhookValidationInput where
  url : JsString
  headers : List (JsString × Option JsString)
  params : JsMap JsString JsString
  authToken : Option JsString
  signingEnabled : Bool
  productionMode : Bool

structure TwilioWebhookValidationResult where
  reasonCodes : List JsString
  signingChecked : Bool
  valid : Bool
  deriving DecidableEq, Repr

def safelyCompareSignature (expected actual : JsString) : Bool :=
  (utf8 expected).length == (utf8 actual).length &&
    utf8 expected == utf8 actual

section Platform

variable (localeLe : JsString → JsString → Bool)

/-- `localeLe` tells whether `localeCompare` of two texts is at most zero. -/
def buildTwilioSignatureBase (url : JsString)
    (params : JsMap JsString JsString) : JsString :=
  let sortedEntries := params.entries.insertionSort fun left right =>
    localeLe left.1 right.1 = true
  url ++ sortedEntries.flatMap fun entry => entry.1 ++ entry.2

def validateTwilioWebhookSignature (input : TwilioWebhookValidationInput) :
    TwilioWebhookValidationResult :=
  if !input.signingEnabled then
    if input.productionMode then
      ⟨[js "WEBHOOK_SIGNATURE_REQUIRED"], false, false⟩
    else ⟨[], false, true⟩
  else
    match input.authToken.filter (!·.isEmpty),
        (getHeader input.headers (js "x-twilio-signature")).filter
          (!·.isEmpty) with
    | some authToken, some signature =>
        let expected := base64 <| hmacSha1 (utf8 authToken) <|
          utf8 (buildTwilioSignatureBase localeLe input.url input.params)
        let reasonCodes :=
          if safelyCompareSignature expected signature then []
          else [js "WEBHOOK_SIGNATURE_INVALID"]
        ⟨reasonCodes, true, reasonCodes.isEmpty⟩
    | _, _ => ⟨[js "WEBHOOK_SIGNATURE_REQUIRED"], true, false⟩

end Platform

/-! ## The signatures of Twilio -/

/-- The URL, then each name and value, the names in ascending order of their
code units. -/
def twilioSignatureBase (url : JsString) (params : JsMap JsString JsString) :
    JsString :=
  url ++ (sortOn Prod.fst params.entries).flatMap fun entry =>
    entry.1 ++ entry.2

def twilioSignature (authToken url : JsString)
    (params : JsMap JsString JsString) : JsString :=
  base64 (hmacSha1 (utf8 authToken) (utf8 (twilioSignatureBase url params)))

/-- The request has the signature that Twilio makes for it with the token of
the account. -/
def TwilioSigned (input : TwilioWebhookValidationInput) : Prop :=
  ∃ authToken, input.authToken = some authToken ∧ authToken ≠ [] ∧
    getHeader input.headers (js "x-twilio-signature") =
      some (twilioSignature authToken input.url input.params)

section Platform

variable (localeLe : JsString → JsString → Bool)

/-- The validator signs what Twilio signs and accepts what Twilio signed. -/
structure SignsAsTwilio (params : JsMap JsString JsString) : Prop where
  base : ∀ url, buildTwilioSignatureBase localeLe url params =
    twilioSignatureBase url params
  accepts : ∀ input : TwilioWebhookValidationInput, input.params = params →
    input.signingEnabled = true →
      ((validateTwilioWebhookSignature localeLe input).valid = true ↔
        TwilioSigned input)

theorem safelyCompareSignature_iff {data : List UInt8} {actual : JsString} :
    safelyCompareSignature (base64 data) actual = true ↔
      actual = base64 data := by
  unfold safelyCompareSignature
  rw [Bool.and_eq_true, beq_iff_eq, beq_iff_eq]
  constructor
  · intro same
    exact eq_of_utf8_eq (isAscii_base64 data) same.2.symm
  · intro same
    rw [same]
    exact ⟨rfl, rfl⟩

theorem filter_nonempty_eq_some_iff {text : Option JsString}
    {found : JsString} :
    text.filter (!·.isEmpty) = some found ↔ text = some found ∧ found ≠ [] := by
  rw [Option.filter_eq_some_iff, Bool.not_eq_true', List.isEmpty_eq_false_iff]

/-- With signing enabled, the signature of the header is compared with the one
of the validator's own text. -/
theorem validateTwilioWebhookSignature_valid_iff
    {input : TwilioWebhookValidationInput}
    (enabled : input.signingEnabled = true) :
    (validateTwilioWebhookSignature localeLe input).valid = true ↔
      ∃ authToken, input.authToken = some authToken ∧ authToken ≠ [] ∧
        getHeader input.headers (js "x-twilio-signature") =
          some (base64 (hmacSha1 (utf8 authToken)
            (utf8 (buildTwilioSignatureBase localeLe input.url
              input.params)))) := by
  unfold validateTwilioWebhookSignature
  rw [enabled, Bool.not_true, if_neg Bool.false_ne_true]
  cases token : input.authToken.filter (!·.isEmpty) with
  | none =>
      constructor
      · intro refused
        exact nomatch refused
      · intro signed
        obtain ⟨authToken, found, nonempty, _⟩ := signed
        rw [filter_nonempty_eq_some_iff.mpr ⟨found, nonempty⟩] at token
        exact nomatch token
  | some authToken =>
      obtain ⟨ownToken, tokenNonempty⟩ := filter_nonempty_eq_some_iff.mp token
      rw [ownToken]
      cases header : (getHeader input.headers
          (js "x-twilio-signature")).filter (!·.isEmpty) with
      | none =>
          constructor
          · intro refused
            exact nomatch refused
          · intro signed
            obtain ⟨otherToken, _, _, found⟩ := signed
            rw [filter_nonempty_eq_some_iff.mpr
              ⟨found, base64_ne_nil (hmacSha1_ne_nil _ _)⟩] at header
            exact nomatch header
      | some signature =>
          obtain ⟨ownHeader, _⟩ := filter_nonempty_eq_some_iff.mp header
          rw [ownHeader]
          simp only [Option.some.injEq]
          constructor
          · intro valid
            refine ⟨authToken, rfl, tokenNonempty, ?_⟩
            apply safelyCompareSignature_iff.mp
            by_contra differs
            rw [if_neg differs] at valid
            exact nomatch valid
          · intro signed
            obtain ⟨_, rfl, _, same⟩ := signed
            rw [if_pos (safelyCompareSignature_iff.mpr same)]
            rfl

theorem signsAsTwilio_of_base {params : JsMap JsString JsString}
    (base : ∀ url, buildTwilioSignatureBase localeLe url params =
      twilioSignatureBase url params) : SignsAsTwilio localeLe params where
  base := base
  accepts := by
    intro input sameParams enabled
    rw [validateTwilioWebhookSignature_valid_iff localeLe enabled, sameParams,
      base]
    unfold TwilioSigned twilioSignature
    rw [sameParams]

/-! ## Orders of names -/

def localeSort (names : List JsString) : List JsString :=
  names.insertionSort fun left right => localeLe left right = true

/-- `localeCompare` sorts the names into ascending order of code units. -/
def CodeUnitOrdered (names : List JsString) : Prop :=
  (localeSort localeLe names).Pairwise fun left right =>
    codeUnitLe left right = true

instance (names : List JsString) : Decidable (CodeUnitOrdered localeLe names) :=
  inferInstanceAs (Decidable (List.Pairwise _ _))

theorem codeUnitOrdered_iff (names : List JsString) :
    CodeUnitOrdered localeLe names ↔
      localeSort localeLe names = sortOn id names := by
  constructor
  · intro ordered
    refine List.Perm.eq_of_pairwise ?_ ordered (sortOn_pairwise id names)
      ((List.perm_insertionSort _ names).trans (sortOn_perm id names).symm)
    intro first second _ _ below above
    exact codeUnitLe_antisymm below above
  · intro same
    unfold CodeUnitOrdered
    rw [same]
    exact sortOn_pairwise id names

/-- In the order of code units a name comes before the longer ones. -/
theorem shorterFirst_sortOn {names : List JsString}
    (distinct : names.Nodup) : ShorterFirst (sortOn id names) := by
  have ordered := (sortOn_pairwise id names).and
    ((sortOn_perm id names).nodup_iff.mpr distinct)
  apply ordered.imp
  intro earlier later both starts
  obtain ⟨rest, whole⟩ := starts
  apply both.2
  apply codeUnitLe_antisymm both.1
  rw [← whole]
  exact codeUnitLe_append later rest

section Spelled

variable {params : JsMap JsString JsString} {value : JsString → JsString}

theorem flatMap_eq_spell {entries : List (JsString × JsString)}
    (holds : ∀ entry ∈ entries, value entry.1 = entry.2) :
    (entries.flatMap fun entry => entry.1 ++ entry.2) =
      spell value (entries.map Prod.fst) := by
  unfold spell
  rw [List.flatMap_map]
  apply List.flatMap_congr
  intro entry member
  rw [holds entry member]

variable (holds : ∀ entry ∈ params.entries, value entry.1 = entry.2)

include holds

theorem buildTwilioSignatureBase_eq (url : JsString) :
    buildTwilioSignatureBase localeLe url params =
      url ++ spell value (localeSort localeLe params.keys) := by
  have sorted := List.perm_insertionSort
    (fun left right => localeLe left.1 right.1 = true) params.entries
  have sameNames : (params.entries.insertionSort fun left right =>
      localeLe left.1 right.1 = true).map Prod.fst =
        localeSort localeLe params.keys :=
    List.map_insertionSort _ _ Prod.fst params.entries
      fun _ _ _ _ => Iff.rfl
  rw [← sameNames, ← flatMap_eq_spell fun entry member =>
    holds entry (sorted.mem_iff.mp member)]
  rfl

theorem twilioSignatureBase_eq (url : JsString) :
    twilioSignatureBase url params =
      url ++ spell value (sortOn id params.keys) := by
  have sameNames : (sortOn Prod.fst params.entries).map Prod.fst =
      sortOn id params.keys :=
    List.map_insertionSort _ _ Prod.fst params.entries
      fun _ _ _ _ => Iff.rfl
  rw [← sameNames, ← flatMap_eq_spell fun entry member =>
    holds entry ((mem_sortOn Prod.fst).mp member)]
  rfl

theorem base_eq_iff :
    (∀ url, buildTwilioSignatureBase localeLe url params =
        twilioSignatureBase url params) ↔
      spell value (localeSort localeLe params.keys) =
        spell value (sortOn id params.keys) := by
  constructor
  · intro base
    have same := base []
    rw [buildTwilioSignatureBase_eq localeLe holds,
      twilioSignatureBase_eq holds] at same
    exact same
  · intro same url
    rw [buildTwilioSignatureBase_eq localeLe holds,
      twilioSignatureBase_eq holds, same]

end Spelled

/-! ## Which requests are accepted -/

/-- The value that a request gives to a name. -/
def valueOf (params : JsMap JsString JsString) (name : JsString) : JsString :=
  (params.get name).getD []

theorem valueOf_entry {params : JsMap JsString JsString} :
    ∀ entry ∈ params.entries, valueOf params entry.1 = entry.2 := by
  intro entry member
  unfold valueOf
  rw [JsMap.get_eq_some.mpr member]
  rfl

theorem signsAsTwilio_of_ordered {params : JsMap JsString JsString}
    (ordered : CodeUnitOrdered localeLe params.keys) :
    SignsAsTwilio localeLe params := by
  apply signsAsTwilio_of_base
  apply (base_eq_iff localeLe valueOf_entry).mpr
  rw [(codeUnitOrdered_iff localeLe _).mp ordered]

/-- The parameters of a request, all with one value. -/
def withValue (params : JsMap JsString JsString) (value : JsString) :
    JsMap JsString JsString where
  entries := params.keys.map fun name => (name, value)
  distinct := by
    rw [List.map_map]
    exact (List.map_id params.keys).symm ▸ params.distinct

theorem keys_withValue (params : JsMap JsString JsString) (value : JsString) :
    (withValue params value).keys = params.keys := by
  unfold JsMap.keys withValue
  rw [List.map_map]
  exact List.map_id _

/-- If the validator agrees with Twilio on all values, the orders agree. -/
theorem ordered_of_forall {params : JsMap JsString JsString}
    (agrees : ∀ others : JsMap JsString JsString,
      others.keys = params.keys → SignsAsTwilio localeLe others) :
    CodeUnitOrdered localeLe params.keys := by
  have twoUnits : Nontrivial UInt16 := ⟨0, 1, by decide⟩
  apply (codeUnitOrdered_iff localeLe _).mpr
  apply eq_of_forall_spell_eq
  intro mark
  have own := keys_withValue params [mark]
  have holds : ∀ entry ∈ (withValue params [mark]).entries,
      [mark] = entry.2 := by
    intro entry member
    obtain ⟨name, _, rfl⟩ := List.mem_map.mp member
    rfl
  have same : spell (fun _ => [mark])
        (localeSort localeLe (withValue params [mark]).keys) =
      spell (fun _ => [mark]) (sortOn id (withValue params [mark]).keys) :=
    (base_eq_iff localeLe holds).mp (agrees _ own).base
  rw [own] at same
  exact same

theorem ordered_of_shorterFirst {params : JsMap JsString JsString}
    (shorterFirst : ShorterFirst (localeSort localeLe params.keys))
    (agrees : SignsAsTwilio localeLe params) :
    CodeUnitOrdered localeLe params.keys := by
  apply (codeUnitOrdered_iff localeLe _).mpr
  apply eq_of_spell_eq (valueOf params) _ shorterFirst
    (shorterFirst_sortOn params.distinct)
    ((base_eq_iff localeLe valueOf_entry).mp agrees.base)
  exact (List.perm_insertionSort _ _).trans (sortOn_perm id _).symm

/-- The validator agrees with Twilio on all requests with certain parameter
names exactly when the two orders agree on these names.  Where `localeCompare`
puts no name before a shorter one that it starts with, every single request
with other names is signed as another text. -/
theorem signsAsTwilio_iff (params : JsMap JsString JsString) :
    ((∀ others : JsMap JsString JsString, others.keys = params.keys →
        SignsAsTwilio localeLe others) ↔
      CodeUnitOrdered localeLe params.keys) ∧
    (ShorterFirst (localeSort localeLe params.keys) →
      (SignsAsTwilio localeLe params ↔
        CodeUnitOrdered localeLe params.keys)) := by
  refine ⟨⟨ordered_of_forall localeLe, ?_⟩, ?_⟩
  · intro ordered others sameNames
    rw [← sameNames] at ordered
    exact signsAsTwilio_of_ordered localeLe ordered
  · intro shorterFirst
    exact ⟨ordered_of_shorterFirst localeLe shorterFirst,
      signsAsTwilio_of_ordered localeLe⟩

end Platform

/-! ## An incoming call -/

/-- The order of `localeCompare` on texts of letters: without regard to case,
and small letters first where only the case differs. -/
def letterLe (left right : JsString) : Bool :=
  if lowerCase left = lowerCase right then codeUnitLe right left
  else codeUnitLe (lowerCase left) (lowerCase right)

/-- Two of the parameters of every call. -/
def callParams : JsMap JsString JsString :=
  JsMap.ofEntries
    [(js "Called", js "+15557654321"), (js "CallSid", js "CA123")]

def incomingCall : TwilioWebhookValidationInput where
  url := js "https://example.com/api/telephony/twilio/inbound"
  headers := [(js "x-twilio-signature", js "VR5DJxsahTh3w3NgG15GWR3Qt/w=")]
  params := callParams
  authToken := js "secret"
  signingEnabled := true
  productionMode := true

theorem incomingCall_signed : TwilioSigned incomingCall := by
  refine ⟨js "secret", rfl, by decide, ?_⟩
  decide +kernel

theorem incomingCall_refused :
    ¬∀ params : JsMap JsString JsString, SignsAsTwilio letterLe params := by
  intro claim
  have accepted := ((claim callParams).accepts incomingCall rfl rfl).mpr
    incomingCall_signed
  revert accepted
  decide +kernel

end BidayaxExecutive.Telephony
