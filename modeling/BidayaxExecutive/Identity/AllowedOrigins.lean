import Mathlib.Data.List.TakeWhile
import BidayaxExecutive.Identity.Environment

/-!
# Allowed origins

An entry of the allowed origins is validated without its trailing slash, and
kept with it.  The two later checks compare an origin with the kept text, so an
entry with a trailing slash allows nothing.
-/

namespace BidayaxExecutive.Identity

open BidayaxExecutive.Runtime JsString

/-- A serialized origin: `null`, or a scheme, a host and perhaps a port. -/
structure Serialized (origin : JsString) : Prop where
  nonempty : origin ≠ []
  noSlash : origin.getLast? ≠ some 47

/-- The URL parser, as far as origins go; `none` is an exception. -/
structure UrlParser where
  /-- `new URL(url).origin`. -/
  origin : JsString → Option JsString
  /-- `new URL(value, base).origin`. -/
  resolve : JsString → JsString → Option JsString
  origin_serialized : ∀ url parsed, origin url = some parsed →
    Serialized parsed
  resolve_serialized : ∀ value base parsed, resolve value base = some parsed →
    Serialized parsed

/-! ## The checks -/

section Checks

variable (parser : UrlParser) (environment : IdentityEnvironment)

def isAllowedReturnTo (value : Option JsString) : Bool :=
  match value with
  | none => false
  | some value =>
      if value.isEmpty then false
      else
        match parser.resolve value environment.applicationBaseUrl with
        | none => false
        | some origin => environment.allowedRedirectOrigins.contains origin

/-- The argument is the `Origin` header of the request. -/
def sameOrigin (origin : Option JsString) : Bool :=
  match origin with
  | none => false
  | some origin =>
      if origin.isEmpty then false
      else environment.allowedRedirectOrigins.contains origin

theorem isAllowedReturnTo_iff {value : JsString} :
    isAllowedReturnTo parser environment (some value) = true ↔
      value ≠ [] ∧ ∃ origin ∈ environment.allowedRedirectOrigins,
        parser.resolve value environment.applicationBaseUrl = some origin := by
  unfold isAllowedReturnTo
  cases value with
  | nil =>
      simp
  | cons unit rest =>
      cases resolved : parser.resolve (unit :: rest)
          environment.applicationBaseUrl with
      | none =>
          simp [resolved]
      | some origin =>
          simp [resolved]

theorem sameOrigin_iff {origin : JsString} :
    sameOrigin environment (some origin) = true ↔
      origin ≠ [] ∧ origin ∈ environment.allowedRedirectOrigins := by
  unfold sameOrigin
  cases origin with
  | nil =>
      simp
  | cons unit rest =>
      simp

/-- The checks accept exactly the origins of the entries. -/
structure OriginsExact : Prop where
  returnTo : ∀ entry ∈ environment.allowedRedirectOrigins, ∀ value ≠ [],
    parser.resolve value environment.applicationBaseUrl =
        parser.origin entry →
      isAllowedReturnTo parser environment (some value) = true
  request : ∀ entry ∈ environment.allowedRedirectOrigins, ∀ origin,
    parser.origin entry = some origin →
      sameOrigin environment (some origin) = true
  returnTo_only : ∀ value,
    isAllowedReturnTo parser environment (some value) = true →
      ∃ entry ∈ environment.allowedRedirectOrigins,
        parser.resolve value environment.applicationBaseUrl =
          parser.origin entry
  request_only : ∀ origin, Serialized origin →
    sameOrigin environment (some origin) = true →
      ∃ entry ∈ environment.allowedRedirectOrigins,
        parser.origin entry = some origin

end Checks

/-! ## Accepted entries -/

section Accepted

variable {parser : UrlParser} {env : EnvironmentMap}
  {environment : IdentityEnvironment}

theorem origin_of_validated {origin : JsString → Option JsString}
    {origins : List JsString}
    (valid : validateAllowedOrigins origin origins = []) {entry : JsString}
    (member : entry ∈ origins) :
    origin entry = some (if entry.getLast? = some 47 then entry.dropLast
      else entry) := by
  have noError := List.flatMap_eq_nil_iff.mp valid entry member
  by_cases wildcard : entry.contains 42 = true
  · rw [if_pos wildcard] at noError
    exact nomatch noError
  · rw [if_neg wildcard] at noError
    cases parsed : origin entry with
    | none =>
        rw [parsed] at noError
        exact nomatch noError
    | some result =>
        rw [parsed] at noError
        by_cases same : result = (if entry.getLast? = some 47
            then entry.dropLast else entry)
        · rw [same]
        · simp only [ne_eq, same, not_false_eq_true, if_true] at noError
          exact nomatch noError

theorem validated_of_accepted {origin : JsString → Option JsString}
    (accepted : readIdentityEnvironment origin env = .ok environment) :
    validateAllowedOrigins origin environment.allowedRedirectOrigins = [] := by
  unfold readIdentityEnvironment at accepted
  by_cases faulty : environmentErrors origin env ≠ []
  · rw [if_pos faulty] at accepted
    exact nomatch accepted
  · rw [if_neg faulty] at accepted
    have noErrors : environmentErrors origin env = [] := by
      simpa using faulty
    unfold environmentErrors at noErrors
    simp only [List.append_eq_nil_iff] at noErrors
    have originErrors := noErrors.1.1.2
    rw [← Except.ok.inj accepted, configuredEnvironment]
    cases origins : safeOrigins origin
        (env (js "IDENTITY_ALLOWED_REDIRECT_ORIGINS")) (baseUrl env) with
    | none =>
        rw [origins] at originErrors
        exact nomatch originErrors
    | some entries =>
        rw [origins] at originErrors
        exact originErrors

/-- The checks are exact for the entries of an accepted environment where each
one with a trailing slash is there without it, too. -/
theorem originsExact_iff
    (accepted : readIdentityEnvironment parser.origin env =
      .ok environment) :
    OriginsExact parser environment ↔
      ∀ entry ∈ environment.allowedRedirectOrigins,
        entry.getLast? = some 47 →
          entry.dropLast ∈ environment.allowedRedirectOrigins := by
  have validated := validated_of_accepted accepted
  constructor
  · intro originsExact entry member slash
    have parsed := origin_of_validated validated member
    rw [if_pos slash] at parsed
    have allowed := originsExact.request entry member _ parsed
    exact ((sameOrigin_iff environment).mp allowed).2
  · intro stripped
    have kept : ∀ entry ∈ environment.allowedRedirectOrigins, ∀ origin,
        parser.origin entry = some origin →
          origin ∈ environment.allowedRedirectOrigins := by
      intro entry member origin parsed
      rw [origin_of_validated validated member] at parsed
      rw [← Option.some.inj parsed]
      by_cases slash : entry.getLast? = some 47
      · rw [if_pos slash]
        exact stripped entry member slash
      · rw [if_neg slash]
        exact member
    have own : ∀ origin ∈ environment.allowedRedirectOrigins,
        Serialized origin → parser.origin origin = some origin := by
      intro origin member serialized
      rw [origin_of_validated validated member, if_neg serialized.noSlash]
    constructor
    · intro entry member value nonempty same
      have parsed := origin_of_validated validated member
      rw [parsed] at same
      exact (isAllowedReturnTo_iff parser environment).mpr
        ⟨nonempty, _, kept entry member _ parsed, same⟩
    · intro entry member origin parsed
      have serialized := parser.origin_serialized entry origin parsed
      exact (sameOrigin_iff environment).mpr
        ⟨serialized.nonempty, kept entry member origin parsed⟩
    · intro value allowed
      obtain ⟨_, origin, member, resolved⟩ :=
        (isAllowedReturnTo_iff parser environment).mp allowed
      have serialized := parser.resolve_serialized _ _ _ resolved
      exact ⟨origin, member, by rw [resolved, own origin member serialized]⟩
    · intro origin serialized allowed
      have member := ((sameOrigin_iff environment).mp allowed).2
      exact ⟨origin, member, own origin member serialized⟩

end Accepted

/-! ## An entry with a trailing slash -/

/-- The origin of a URL that starts with `https://` and has a plain host. -/
def httpsOrigin (url : JsString) : Option JsString :=
  if (js "https://").isPrefixOf url &&
      (url.drop 8).takeWhile (· != 47) != [] then
    some (js "https://" ++ (url.drop 8).takeWhile (· != 47))
  else none

theorem httpsOrigin_serialized {url parsed : JsString}
    (found : httpsOrigin url = some parsed) : Serialized parsed := by
  unfold httpsOrigin at found
  split_ifs at found with absolute
  rw [Bool.and_eq_true, bne_iff_ne] at absolute
  rw [← Option.some.inj found]
  constructor
  · exact List.append_ne_nil_of_right_ne_nil _ absolute.2
  · intro slash
    rw [List.getLast?_append_of_ne_nil _ absolute.2] at slash
    have plain := List.mem_takeWhile_imp (List.mem_of_getLast? slash)
    exact nomatch plain

/-- The parser on such URLs and on paths. -/
def httpsParser : UrlParser where
  origin := httpsOrigin
  resolve value base := (httpsOrigin value).or (httpsOrigin base)
  origin_serialized _ _ found := httpsOrigin_serialized found
  resolve_serialized value base parsed found := by
    cases own : httpsOrigin value with
    | none =>
        rw [own] at found
        exact httpsOrigin_serialized found
    | some origin =>
        rw [own] at found
        rw [← Option.some.inj found]
        exact httpsOrigin_serialized own

/-- A deployment with the given allowed origins. -/
def deployment (allowed : JsString) : EnvironmentMap := fun name =>
  List.lookup name
    [(js "DASHBOARD_BASE_URL", js "https://app.example"),
      (js "IDENTITY_ALLOWED_REDIRECT_ORIGINS", allowed),
      (js "IDENTITY_TRANSACTION_ENCRYPTION_KEY",
        js "0123456789abcdef0123456789abcdef"),
      (js "WORKOS_API_KEY", js "key"),
      (js "WORKOS_CLIENT_ID", js "client"),
      (js "WORKOS_REDIRECT_URI", js "https://app.example/callback"),
      (js "WORKOS_WEBHOOK_SECRET", js "webhook")]

theorem plainEntry_originsExact :
    ∃ environment,
      readIdentityEnvironment httpsParser.origin
          (deployment (js "https://app.example")) = .ok environment ∧
        (OriginsExact httpsParser environment ↔
          ∀ entry ∈ environment.allowedRedirectOrigins,
            entry.getLast? = some 47 →
              entry.dropLast ∈ environment.allowedRedirectOrigins) := by
  have accepted : readIdentityEnvironment httpsParser.origin
      (deployment (js "https://app.example")) = .ok _ := rfl
  exact ⟨_, accepted, originsExact_iff accepted⟩

/-- The entry `https://app.example/` is accepted and allows nothing. -/
theorem slashEntry_not_exact :
    ¬∀ (parser : UrlParser) (env : EnvironmentMap)
        (environment : IdentityEnvironment),
      readIdentityEnvironment parser.origin env = .ok environment →
        OriginsExact parser environment := by
  intro claim
  have accepted : readIdentityEnvironment httpsParser.origin
      (deployment (js "https://app.example/")) = .ok _ := rfl
  have allowed := (claim _ _ _ accepted).request (js "https://app.example/")
    List.mem_cons_self (js "https://app.example") rfl
  revert allowed
  decide

end BidayaxExecutive.Identity
