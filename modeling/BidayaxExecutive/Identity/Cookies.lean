import BidayaxExecutive.Library.Separator
import BidayaxExecutive.Runtime.UriComponent

/-!
# Identity cookies

Sessions, transactions and the CSRF token travel in cookies.  A cookie is
written with an encoded value and read from a header that the client controls:
what decoding throws there, `parseCookie` throws too.
-/

namespace BidayaxExecutive.Identity

open BidayaxExecutive.Runtime JsString
open BidayaxExecutive.Library.Separator (forall_bne_of_not_mem)

/-! ## Reading -/

inductive UriError where
  | malformed
  deriving DecidableEq

/-- The loop over the entries.  A split text has a first part. -/
def parseEntries (name : JsString) :
    List JsString → Except UriError (Option JsString)
  | [] => .ok none
  | entry :: rest =>
      match (trim entry).splitOn 61 with
      | [] => parseEntries name rest
      | cookieName :: parts =>
          if cookieName = name then
            match decodeURIComponent (List.intercalate [61] parts) with
            | none => .error .malformed
            | some value => .ok (some value)
          else parseEntries name rest

def parseCookie (header : Option JsString) (name : JsString) :
    Except UriError (Option JsString) :=
  match header with
  | none => .ok none
  | some header =>
      if header.isEmpty then .ok none
      else parseEntries name (header.splitOn 59)

/-! ## Writing -/

/-- The parameter of `serializeIdentityCookie`. -/
structure IdentityCookie where
  domain : Option JsString
  httpOnly : Bool
  maxAge : JsNumber
  name : JsString
  secure : Bool
  value : JsString

/-- `Math.max(0, Math.floor(number))`. -/
def wholeSeconds : JsNumber → JsNumber
  | .nan => .nan
  | .infinity true => .integer 0
  | .infinity false => .infinity false
  | .negativeZero => .integer 0
  | .integer value => .integer (max 0 value)
  | .fraction value _ => .integer (max 0 value.floor)

def nameValue (name value : JsString) : JsString :=
  name ++ js "=" ++ encodeURIComponent value

def cookieParts (input : IdentityCookie) : List (Option JsString) :=
  [some (nameValue input.name input.value),
    some (js "Path=/"),
    some (js "Max-Age=" ++ (wholeSeconds input.maxAge).text),
    if input.httpOnly then some (js "HttpOnly") else none,
    some (js "SameSite=Lax"),
    if input.secure then some (js "Secure") else none,
    (input.domain.filter fun domain => !domain.isEmpty).map
      (js "Domain=" ++ ·)]

def serializeIdentityCookie (input : IdentityCookie) : JsString :=
  List.intercalate (js "; ") ((cookieParts input).filterMap id)

/-- The part of a `Set-Cookie` header that comes back in a `Cookie` header. -/
def cookiePair (setCookie : JsString) : JsString :=
  setCookie.takeWhile (· != 59)

/-! ## Which headers throw -/

/-- The name of an entry of a header. -/
def entryName (entry : JsString) : JsString :=
  (trim entry).takeWhile (· != 61)

/-- What is behind the first `=` of an entry. -/
def entryValue (entry : JsString) : JsString :=
  ((trim entry).dropWhile (· != 61)).drop 1

def firstEntry? (name header : JsString) : Option JsString :=
  (header.splitOn 59).find? fun entry => entryName entry == name

theorem parseEntries_cons (name entry : JsString) (rest : List JsString) :
    parseEntries name (entry :: rest) =
      if entryName entry = name then
        match decodeURIComponent (entryValue entry) with
        | none => .error .malformed
        | some value => .ok (some value)
      else parseEntries name rest := by
  obtain ⟨parts, split, behind⟩ :=
    Library.Separator.splitOn_eq_cons 61 (trim entry)
  rw [parseEntries, split]
  simp only [behind]
  rfl

theorem parseEntries_returns_iff {name : JsString} {entries : List JsString} :
    (∃ result, parseEntries name entries = .ok result) ↔
      ∀ entry, (entries.find? fun entry => entryName entry == name) =
          some entry →
        ∃ value, Spells (entryValue entry) value := by
  induction entries with
  | nil =>
      exact ⟨fun _ => nofun, fun _ => ⟨none, rfl⟩⟩
  | cons entry rest inductionHypothesis =>
      rw [parseEntries_cons]
      by_cases named : entryName entry = name
      · have found : ((entry :: rest).find? fun entry =>
            entryName entry == name) = some entry :=
          List.find?_cons_of_pos (by rw [named, beq_self_eq_true])
        rw [if_pos named, found]
        cases decoded : decodeURIComponent (entryValue entry) with
        | none =>
            constructor
            · intro returns
              exact nomatch returns
            · intro spelled
              obtain ⟨value, spells⟩ := spelled entry rfl
              rw [decodeURIComponent_eq_some_iff.mpr spells] at decoded
              exact nomatch decoded
        | some value =>
            constructor
            · intro _ other same
              rw [← Option.some.inj same]
              exact ⟨value, decodeURIComponent_eq_some_iff.mp decoded⟩
            · intro _
              exact ⟨some value, rfl⟩
      · have passed : ((entry :: rest).find? fun entry =>
            entryName entry == name) =
              rest.find? fun entry => entryName entry == name :=
          List.find?_cons_of_neg (by simpa using named)
        rw [if_neg named, passed]
        exact inductionHypothesis

/-! ## Reading back what was written -/

structure CookieName (name : JsString) : Prop where
  noSemicolon : 59 ∉ name
  noEquals : 61 ∉ name
  trimmed : trim name = name

theorem trim_append_of_spaces {lead text : JsString}
    (spaces : ∀ unit ∈ lead, isSpace unit = true) :
    trim (lead ++ text) = trim text := by
  rw [trim, List.dropWhile_append_of_pos spaces, ← trim]

theorem dropWhile_isSpace_of_visible {unit : UInt16} {rest : JsString}
    (visible : isSpace unit = false) :
    (unit :: rest).dropWhile isSpace = unit :: rest := by
  rw [List.dropWhile_cons_of_neg]
  rw [visible]
  exact Bool.false_ne_true

theorem isSpace_of_trimmed {unit : UInt16} {rest : JsString}
    (trimmed : trim (unit :: rest) = unit :: rest) :
    isSpace unit = false := by
  by_contra notVisible
  have space : isSpace unit = true := by simpa using notVisible
  have shorter : (trim (unit :: rest)).length ≤ rest.length := by
    rw [trim, List.dropWhile_cons_of_pos space, List.length_reverse]
    calc ((rest.dropWhile isSpace).reverse.dropWhile isSpace).length
        ≤ (rest.dropWhile isSpace).reverse.length :=
          (List.dropWhile_suffix isSpace).length_le
      _ = (rest.dropWhile isSpace).length := List.length_reverse
      _ ≤ rest.length := (List.dropWhile_suffix isSpace).length_le
  rw [trimmed, List.length_cons] at shorter
  omega

theorem isSpace_of_mem_encodeURIComponent {text : JsString} {unit : UInt16}
    (member : unit ∈ encodeURIComponent text) : isSpace unit = false := by
  have bounds := mem_encodeURIComponent member
  simp only [isSpace, UInt16.le_iff_toNat_le, ← UInt16.toNat_inj,
    Bool.or_eq_false_iff, Bool.and_eq_false_iff, decide_eq_false_iff_not,
    beq_eq_false_iff_ne, ne_eq, UInt16.toNat_ofNat, Nat.reducePow,
    Nat.reduceMod]
  omega

theorem trim_nameValue {name value : JsString} (isName : CookieName name) :
    trim (nameValue name value) = nameValue name value := by
  have equals : isSpace 61 = false := by decide
  have starts : (nameValue name value).dropWhile isSpace =
      nameValue name value := by
    unfold nameValue
    cases name with
    | nil =>
        exact dropWhile_isSpace_of_visible equals
    | cons unit rest =>
        exact dropWhile_isSpace_of_visible (isSpace_of_trimmed isName.trimmed)
  have reversed : (nameValue name value).reverse =
      (encodeURIComponent value).reverse ++ 61 :: name.reverse := by
    have equalsText : js "=" = [61] := rfl
    rw [nameValue, equalsText, List.reverse_append, List.reverse_append]
    simp
  have ends : (nameValue name value).reverse.dropWhile isSpace =
      (nameValue name value).reverse := by
    rw [reversed]
    cases encoded : (encodeURIComponent value).reverse with
    | nil =>
        exact dropWhile_isSpace_of_visible equals
    | cons unit rest =>
        apply dropWhile_isSpace_of_visible
        have member : unit ∈ encodeURIComponent value := by
          rw [← List.mem_reverse, encoded]
          exact List.mem_cons_self
        exact isSpace_of_mem_encodeURIComponent member
  rw [trim, starts, ends, List.reverse_reverse]

section Written

variable {name value : JsString} (isName : CookieName name)

include isName

theorem entryName_nameValue : entryName (nameValue name value) = name := by
  rw [entryName, trim_nameValue isName, nameValue, List.append_assoc,
    List.takeWhile_append_of_pos (forall_bne_of_not_mem isName.noEquals)]
  exact List.append_nil name

theorem entryValue_nameValue :
    entryValue (nameValue name value) = encodeURIComponent value := by
  rw [entryValue, trim_nameValue isName, nameValue, List.append_assoc,
    List.dropWhile_append_of_pos (forall_bne_of_not_mem isName.noEquals)]
  rfl

theorem nameValue_noSemicolon : 59 ∉ nameValue name value := by
  intro member
  rw [nameValue, List.append_assoc] at member
  cases List.mem_append.mp member with
  | inl inName =>
      exact isName.noSemicolon inName
  | inr behind =>
      cases List.mem_append.mp behind with
      | inl inEquals =>
          revert inEquals
          decide
      | inr inValue =>
          exact (mem_encodeURIComponent inValue).2.2 rfl

end Written

theorem cookiePair_serializeIdentityCookie {input : IdentityCookie}
    (isName : CookieName input.name) :
    cookiePair (serializeIdentityCookie input) =
      nameValue input.name input.value := by
  have noSemicolon : 59 ∉ nameValue input.name input.value :=
    nameValue_noSemicolon isName
  have plain := forall_bne_of_not_mem noSemicolon
  obtain ⟨rest, parts⟩ : ∃ rest, (cookieParts input).filterMap id =
      nameValue input.name input.value :: js "Path=/" :: rest :=
    ⟨_, rfl⟩
  rw [serializeIdentityCookie, cookiePair, parts, List.intercalate_cons_cons,
    List.append_assoc, List.takeWhile_append_of_pos plain]
  exact List.append_nil _

theorem entryName_append_of_spaces {lead entry : JsString}
    (spaces : ∀ unit ∈ lead, isSpace unit = true) :
    entryName (lead ++ entry) = entryName entry := by
  rw [entryName, trim_append_of_spaces spaces, ← entryName]

theorem entryValue_append_of_spaces {lead entry : JsString}
    (spaces : ∀ unit ∈ lead, isSpace unit = true) :
    entryValue (lead ++ entry) = entryValue entry := by
  rw [entryValue, trim_append_of_spaces spaces, ← entryValue]

/-- The first entry of the name decides, whatever is behind it. -/
theorem parseEntries_nameValue {name value lead : JsString}
    (isName : CookieName name) (paired : Paired value)
    (spaces : ∀ unit ∈ lead, isSpace unit = true)
    (rest : List JsString) :
    parseEntries name ((lead ++ nameValue name value) :: rest) =
      .ok (some value) := by
  have decoded := decodeURIComponent_eq_some_iff.mpr
    (spells_encodeURIComponent paired)
  rw [parseEntries_cons, entryName_append_of_spaces spaces,
    entryValue_append_of_spaces spaces, entryName_nameValue isName,
    entryValue_nameValue isName, if_pos rfl, decoded]

theorem not_mem_append_of_spaces {lead entry : JsString}
    (spaces : ∀ unit ∈ lead, isSpace unit = true) (plain : 59 ∉ entry) :
    59 ∉ lead ++ entry := by
  intro member
  cases List.mem_append.mp member with
  | inl inLead =>
      have space := spaces 59 inLead
      revert space
      decide
  | inr inEntry =>
      exact plain inEntry

theorem parseEntries_header {name value lead : JsString}
    (isName : CookieName name) (paired : Paired value)
    (spaces : ∀ unit ∈ lead, isSpace unit = true)
    {before after : List JsString}
    (others : ∀ pair ∈ before, 59 ∉ pair ∧ entryName pair ≠ name) :
    parseEntries name ((lead ++ List.intercalate (js "; ")
        (before ++ nameValue name value :: after)).splitOn 59) =
      .ok (some value) := by
  induction before generalizing lead with
  | nil =>
      have plain : 59 ∉ lead ++ nameValue name value :=
        not_mem_append_of_spaces spaces (nameValue_noSemicolon isName)
      cases after with
      | nil =>
          rw [List.nil_append, List.intercalate_singleton,
            List.splitOn_eq_singleton plain]
          exact parseEntries_nameValue isName paired spaces []
      | cons pair rest =>
          have split : lead ++ List.intercalate (js "; ")
              ([] ++ nameValue name value :: pair :: rest) =
              (lead ++ nameValue name value) ++
                59 :: 32 :: List.intercalate (js "; ") (pair :: rest) := by
            rw [List.nil_append, List.intercalate_cons_cons,
              List.append_assoc, List.append_assoc]
            rfl
          rw [split, List.splitOn_append_cons_self_of_not_mem plain]
          exact parseEntries_nameValue isName paired spaces _
  | cons pair rest inductionHypothesis =>
      obtain ⟨noSemicolon, differs⟩ := others pair List.mem_cons_self
      have plain : 59 ∉ lead ++ pair :=
        not_mem_append_of_spaces spaces noSemicolon
      have nonempty : rest ++ nameValue name value :: after ≠ [] :=
        List.append_ne_nil_of_right_ne_nil _ (List.cons_ne_nil _ _)
      have split : lead ++ List.intercalate (js "; ")
          ((pair :: rest) ++ nameValue name value :: after) =
          (lead ++ pair) ++ 59 :: ([32] ++ List.intercalate (js "; ")
            (rest ++ nameValue name value :: after)) := by
        rw [List.cons_append, List.intercalate_cons_of_ne_nil nonempty,
          List.append_assoc, List.append_assoc]
        rfl
      have space : ∀ unit ∈ ([32] : JsString), isSpace unit = true :=
        List.all_eq_true.mp (by decide)
      have later := inductionHypothesis space fun other member =>
        others other (List.mem_cons_of_mem _ member)
      rw [split, List.splitOn_append_cons_self_of_not_mem plain,
        parseEntries_cons, entryName_append_of_spaces spaces, if_neg differs]
      exact later

theorem nameValue_ne_nil (name value : JsString) :
    nameValue name value ≠ [] := by
  intro empty
  have within : (61 : UInt16) ∈ nameValue name value := by
    rw [nameValue, List.append_assoc]
    exact List.mem_append_right _ List.mem_cons_self
  rw [empty] at within
  exact nomatch within

theorem eq_nil_of_intercalate {separator : JsString}
    (nonempty : separator ≠ []) {parts : List JsString}
    (empty : List.intercalate separator parts = []) :
    ∀ part ∈ parts, part = [] := by
  match parts with
  | [] =>
      exact fun _ member => nomatch member
  | [part] =>
      rw [List.intercalate_singleton] at empty
      simpa using empty
  | first :: second :: rest =>
      rw [List.intercalate_cons_cons, List.append_eq_nil_iff,
        List.append_eq_nil_iff] at empty
      exact absurd empty.1.2 nonempty

/-! ## The two directions -/

/-- Nothing is there to decode, or what is decoded spells a text. -/
def Readable (name : JsString) : Option JsString → Prop
  | none => True
  | some header =>
      ∀ entry, firstEntry? name header = some entry →
        ∃ value, Spells (entryValue entry) value

theorem parseCookie_returns_iff (header : Option JsString)
    (name : JsString) :
    (∃ result, parseCookie header name = .ok result) ↔
      Readable name header := by
  cases header with
  | none =>
      exact ⟨fun _ => trivial, fun _ => ⟨none, rfl⟩⟩
  | some header =>
      rw [parseCookie, Readable, firstEntry?, ← parseEntries_returns_iff]
      cases header with
      | nil =>
          have split : List.splitOn 59 ([] : JsString) = [[]] := rfl
          have decoded : decodeURIComponent (entryValue []) = some [] :=
            decodeURIComponent_eq_some_iff.mpr .nil
          rw [split, parseEntries_cons, decoded]
          by_cases named : entryName [] = name
          · rw [if_pos named]
            exact iff_of_true ⟨none, rfl⟩ ⟨some [], rfl⟩
          · rw [if_neg named]
            exact iff_of_true ⟨none, rfl⟩ ⟨none, rfl⟩
      | cons unit rest =>
          rfl

/-- Reading returns exactly for the headers whose first entry of the name is
well escaped, and a written cookie is always read back. -/
theorem parseCookie_returns_iff_and_inverts (header : Option JsString)
    (name : JsString) :
    ((∃ result, parseCookie header name = .ok result) ↔
      Readable name header) ∧
    ∀ (input : IdentityCookie) (before after : List JsString),
      CookieName input.name → Paired input.value →
      (∀ pair ∈ before, 59 ∉ pair ∧ entryName pair ≠ input.name) →
      parseCookie
          (some (List.intercalate (js "; ") (before ++
            cookiePair (serializeIdentityCookie input) :: after)))
          input.name = .ok (some input.value) := by
  refine ⟨parseCookie_returns_iff header name, ?_⟩
  intro input before after isName paired others
  have read : parseEntries input.name
      (([] ++ List.intercalate (js "; ")
        (before ++ nameValue input.name input.value :: after)).splitOn 59) =
        .ok (some input.value) :=
    parseEntries_header isName paired (List.forall_mem_nil _) others
  rw [List.nil_append] at read
  have nonempty : (List.intercalate (js "; ") (before ++
      nameValue input.name input.value :: after)).isEmpty = false := by
    rw [Bool.eq_false_iff]
    intro blank
    have empty := eq_nil_of_intercalate (by decide)
      (List.isEmpty_iff.mp blank) _ List.mem_append_cons_self
    exact absurd empty (nameValue_ne_nil _ _)
  rw [cookiePair_serializeIdentityCookie isName, parseCookie, nonempty]
  exact read

def visitCookie : IdentityCookie where
  domain := none
  httpOnly := true
  maxAge := .integer 60
  name := js "visit"
  secure := true
  value := js "a; b"

theorem visitCookie_read :
    (∃ result, parseCookie (some (js "theme=dark")) (js "visit") =
      .ok result) ∧
    parseCookie
        (some (List.intercalate (js "; ") ([js "theme=dark"] ++
          cookiePair (serializeIdentityCookie visitCookie) :: [js "visit=x"])))
        visitCookie.name = .ok (some visitCookie.value) := by
  constructor
  · apply (parseCookie_returns_iff_and_inverts _ _).1.mpr
    intro entry found
    exact nomatch found
  · apply (parseCookie_returns_iff_and_inverts none []).2
    · exact ⟨by decide, by decide, by decide⟩
    · exact Paired.of_isAscii (by decide)
    · decide

/-- A percent sign with nothing behind it. -/
theorem barePercent_throws :
    ¬∀ (header : Option JsString) (name : JsString),
      ∃ result, parseCookie header name = .ok result := by
  intro claim
  have readable := (parseCookie_returns_iff _ _).mp
    (claim (some (js "name=%")) (js "name"))
  obtain ⟨value, spells⟩ := readable (js "name=%") (by decide)
  have decoded := decodeURIComponent_eq_some_iff.mpr spells
  have percent : entryValue (js "name=%") = [37] := by decide
  rw [percent, decodeURIComponent, if_pos rfl] at decoded
  split at decoded
  · cases decoded
  · next found =>
      cases found

end BidayaxExecutive.Identity
