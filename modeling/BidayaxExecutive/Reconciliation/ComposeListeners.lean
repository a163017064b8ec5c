import BidayaxExecutive.Reconciliation.ComposeScan

/-!
# Listeners that the compose check sees

The check collects a mapping for an entry in double quotes and for one of
fields with an address.  A mapping it allows is one of the two loopback
bindings, so what it misses are the entries without a mapping, and the ways to
name a port that its search for the port of the database does not know.
-/

namespace BidayaxExecutive.Reconciliation

open BidayaxExecutive.Runtime JsString
open BidayaxExecutive.Library

/-! ## Mappings that are allowed -/

theorem not_mem_natText {unit : UInt16} (other : isDigit unit = false)
    (number : Nat) : unit ∉ natText number := by
  intro member
  rw [isDigit_of_mem_natText member] at other
  exact nomatch other

theorem PortRange.colon_not_mem (ports : PortRange) : 58 ∉ ports.text := by
  have first : 58 ∉ natText ports.first :=
    not_mem_natText (by decide) ports.first
  rw [PortRange.text, List.mem_append, not_or]
  refine ⟨first, ?_⟩
  cases ports.last with
  | none => exact List.not_mem_nil
  | some last =>
      rw [List.mem_cons, not_or]
      exact ⟨by decide, not_mem_natText (by decide) last⟩

theorem PortRange.eq_single {ports : PortRange} {port : Nat}
    (same : ports.text = natText port) : ports = PortRange.single port := by
  obtain ⟨first, last, ordered⟩ := ports
  cases last with
  | none =>
      have sameFirst : first = port :=
        natText_injective ((List.append_nil _).symm.trans same)
      subst sameFirst
      rfl
  | some last =>
      have dash : 45 ∈ natText port := by
        rw [← same]
        exact List.mem_append_right _ List.mem_cons_self
      exact absurd dash (not_mem_natText (by decide) port)

theorem ShortPort.colon_not_mem_targetText (port : ShortPort) :
    58 ∉ port.targetText := by
  rw [ShortPort.targetText, List.mem_append, not_or]
  refine ⟨port.target.colon_not_mem, ?_⟩
  cases port.protocol with
  | none => exact List.not_mem_nil
  | some protocol => cases protocol <;> decide

theorem ShortPort.target_eq_single {port : ShortPort} {target : Nat}
    (same : port.targetText = natText target) :
    port.target = PortRange.single target := by
  rw [ShortPort.targetText] at same
  cases given : port.protocol with
  | none =>
      rw [given] at same
      exact PortRange.eq_single ((List.append_nil _).symm.trans same)
  | some protocol =>
      rw [given] at same
      have slash : 47 ∈ natText target := by
        rw [← same]
        exact List.mem_append_right _ List.mem_cons_self
      exact absurd slash (not_mem_natText (by decide) target)

/-- An address with a published port and a port behind it. -/
def bindingText (address : JsString) (published target : Nat) : JsString :=
  (address ++ 58 :: natText published) ++ 58 :: natText target

theorem ShortPort.port_of_text {port : ShortPort} {address : JsString}
    {published target : Nat}
    (same : port.text = bindingText address published target) :
    port.hostIp.map HostAddress.text = some address ∧
      port.published = some (PortRange.single published) ∧
      port.target = PortRange.single target := by
  have noColon : ∀ number : Nat, (58 : UInt16) ∉ natText number :=
    not_mem_natText (by decide)
  have split : ∀ before : JsString,
      before ++ 58 :: port.targetText =
          bindingText address published target →
        before = address ++ 58 :: natText published ∧
          port.targetText = natText target := by
    intro before shape
    exact Separator.split_last_eq port.colon_not_mem_targetText
      (noColon target) shape
  rw [ShortPort.text, ShortPort.hostText] at same
  cases addressed : port.hostIp with
  | none =>
      cases given : port.published with
      | none =>
          rw [addressed, given] at same
          have colon : 58 ∈ port.targetText := by
            have whole : port.targetText =
                bindingText address published target := same
            rw [whole]
            exact List.mem_append_right _ List.mem_cons_self
          exact absurd colon port.colon_not_mem_targetText
      | some ports =>
          rw [addressed, given] at same
          have shape : ports.text ++ 58 :: port.targetText =
              bindingText address published target :=
            (List.append_assoc ports.text [58] port.targetText).symm.trans same
          have colon : 58 ∈ ports.text := by
            rw [(split _ shape).1]
            exact List.mem_append_right _ List.mem_cons_self
          exact absurd colon ports.colon_not_mem
  | some host =>
      cases given : port.published with
      | none =>
          rw [addressed, given] at same
          have shape : host.text ++ [58] ++ 58 :: port.targetText =
              bindingText address published target := by
            rw [← same]
            simp
          obtain ⟨before, _⟩ := split _ shape
          have empty : [] = natText published := (Separator.split_last_eq
            List.not_mem_nil (noColon published) before).2
          exact absurd empty.symm (scalarText_natText published).nonempty
      | some ports =>
          rw [addressed, given] at same
          have shape :
              host.text ++ 58 :: ports.text ++ 58 :: port.targetText =
                bindingText address published target := by
            rw [← same]
            simp
          obtain ⟨before, targetText⟩ := split _ shape
          obtain ⟨sameAddress, sameText⟩ := Separator.split_last_eq
            ports.colon_not_mem (noColon published) before
          exact ⟨congrArg some sameAddress,
            congrArg some (PortRange.eq_single sameText),
            ShortPort.target_eq_single targetText⟩

theorem PortEntry.port_of_mapping {entry : PortEntry} {address : JsString}
    {published target : Nat}
    (mapping : entry.mapping? = some (bindingText address published target)) :
    entry.port = ⟨some address, some (PortRange.single published),
      PortRange.single target⟩ := by
  cases entry with
  | short quoting port =>
      cases quoting with
      | double =>
          obtain ⟨sameAddress, samePublished, sameTarget⟩ :=
            ShortPort.port_of_text (Option.some.inj mapping)
          rw [PortEntry.port, sameAddress, samePublished, sameTarget]
      | single => exact nomatch mapping
      | plain => exact nomatch mapping
  | long port =>
      obtain ⟨host, addressed, shape⟩ := Option.map_eq_some_iff.mp mapping
      have whole : host.text ++ 58 :: port.published.text ++
          58 :: natText port.target =
            bindingText address published target := by
        have colon : js ":" = [58] := by
          decide
        rw [← shape, colon]
        simp
      obtain ⟨before, sameTarget⟩ := Separator.split_last_eq
        (not_mem_natText (by decide) port.target)
        (not_mem_natText (by decide) target) whole
      obtain ⟨sameAddress, sameText⟩ := Separator.split_last_eq
        port.published.colon_not_mem
        (not_mem_natText (by decide) published) before
      rw [PortEntry.port, addressed, Option.map_some, sameAddress,
        PortRange.eq_single sameText, natText_injective sameTarget]

/-- An entry whose mapping is allowed is bound to the loopback. -/
theorem PortEntry.loopback_of_allowed {entry : PortEntry} {binding : JsString}
    (mapping : entry.mapping? = some binding)
    (allowed : binding ∈ allowedBindings) : entry.port ∈ loopbackPorts := by
  have card : executiveCardBinding =
      bindingText (js "127.0.0.1") 3100 3000 := by
    decide
  have dashboard : executiveDashboardBinding =
      bindingText (js "127.0.0.1") 3101 3001 := by
    decide
  simp only [allowedBindings, List.mem_cons, List.not_mem_nil, or_false]
    at allowed
  rcases allowed with rfl | rfl
  · rw [card] at mapping
    rw [PortEntry.port_of_mapping mapping]
    exact List.mem_cons_self
  · rw [dashboard] at mapping
    rw [PortEntry.port_of_mapping mapping]
    exact List.mem_cons_of_mem _ List.mem_cons_self

/-! ## The two invariants -/

section Compose

variable (compose : ComposeText)

theorem reported_listeners_render :
    Reported compose.render (js "no-added-public-listeners") ↔
      ∀ entry ∈ compose.entries, ∀ binding ∈ entry.mapping?,
        binding ∈ allowedBindings := by
  rw [reported_listeners_iff, collectPortMappings_render]
  constructor
  · intro allowed entry member binding mapping
    exact allowed binding (List.mem_filterMap.mpr ⟨entry, member, mapping⟩)
  · intro allowed binding found
    obtain ⟨entry, member, mapping⟩ := List.mem_filterMap.mp found
    exact allowed entry member binding mapping

theorem reported_postgres_render :
    Reported compose.render (js "postgres-not-public") ↔
      ∀ entry ∈ compose.entries, ∀ binding ∈ entry.mapping?,
        mentionsPostgresPort binding = false := by
  rw [reported_postgres_iff, collectPortMappings_render]
  constructor
  · intro absent entry member binding mapping
    exact absent binding (List.mem_filterMap.mpr ⟨entry, member, mapping⟩)
  · intro absent binding found
    obtain ⟨entry, member, mapping⟩ := List.mem_filterMap.mp found
    exact absent entry member binding mapping

/-- A report that no listener was added can be trusted when a mapping that is
not allowed was collected, or no entry without a mapping is a public
listener. -/
theorem listenersTrusted_iff :
    (Reported compose.render (js "no-added-public-listeners") →
        ∀ entry ∈ compose.entries, entry.port ∈ loopbackPorts) ↔
      (∃ entry ∈ compose.entries, ∃ binding ∈ entry.mapping?,
          binding ∉ allowedBindings) ∨
        ∀ entry ∈ compose.entries, entry.mapping? = none →
          entry.port ∈ loopbackPorts := by
  rw [reported_listeners_render]
  constructor
  · intro trusted
    by_cases allowed : ∀ entry ∈ compose.entries,
        ∀ binding ∈ entry.mapping?, binding ∈ allowedBindings
    · exact Or.inr fun entry member _ => trusted allowed entry member
    · refine Or.inl ?_
      simpa only [not_forall, exists_prop] using allowed
  · rintro (⟨entry, member, binding, mapping, unexpected⟩ | unseen) allowed
    · exact absurd (allowed entry member binding mapping) unexpected
    · intro entry member
      cases mapping : entry.mapping? with
      | none => exact unseen entry member mapping
      | some binding =>
          exact PortEntry.loopback_of_allowed mapping
            (allowed entry member binding mapping)

theorem postgresTrusted_iff :
    (Reported compose.render (js "postgres-not-public") →
        ∀ entry ∈ compose.entries, ¬entry.port.target.Covers 5432) ↔
      (∃ entry ∈ compose.entries, ∃ binding ∈ entry.mapping?,
          mentionsPostgresPort binding = true) ∨
        ∀ entry ∈ compose.entries, ¬entry.port.target.Covers 5432 := by
  rw [reported_postgres_render, imp_iff_not_or]
  refine or_congr_left ?_
  simp only [not_forall, exists_prop, Bool.not_eq_false]

end Compose

/-- Exactly when the two reports can be trusted. -/
theorem composeCheckTrusted_iff (compose : ComposeText) :
    ((Reported compose.render (js "no-added-public-listeners") →
          ∀ entry ∈ compose.entries, entry.port ∈ loopbackPorts) ∧
        (Reported compose.render (js "postgres-not-public") →
          ∀ entry ∈ compose.entries, ¬entry.port.target.Covers 5432)) ↔
      ((∃ entry ∈ compose.entries, ∃ binding ∈ entry.mapping?,
            binding ∉ allowedBindings) ∨
          ∀ entry ∈ compose.entries, entry.mapping? = none →
            entry.port ∈ loopbackPorts) ∧
        ((∃ entry ∈ compose.entries, ∃ binding ∈ entry.mapping?,
            mentionsPostgresPort binding = true) ∨
          ∀ entry ∈ compose.entries, ¬entry.port.target.Covers 5432) := by
  rw [listenersTrusted_iff, postgresTrusted_iff]

/-- A database published without quotes. -/
def publicDatabase : ComposeText where
  header := []
  services := [{
    name := js "postgres"
    before := [js "    image: postgres:16"]
    ports := [.short .plain ⟨none, some (PortRange.single 5432),
      PortRange.single 5432, none⟩]
    after := [js "    restart: always"]
    nameNonempty := by decide
    nameUnits := List.all_eq_true.mp (by decide)
    beforeOther := by decide
    beforeNone := by decide
    afterOther := by decide
    afterOutdented := by
      rintro _ ⟨⟩
      exact ⟨4, Nat.le_refl 4, by decide⟩ }]
  footer := []
  headerOther := nofun
  footerOther := nofun
  footerOutdented := nofun

theorem not_composeCheckTrusted_of_plain :
    ¬∀ compose : ComposeText,
      (Reported compose.render (js "no-added-public-listeners") →
          ∀ entry ∈ compose.entries, entry.port ∈ loopbackPorts) ∧
        (Reported compose.render (js "postgres-not-public") →
          ∀ entry ∈ compose.entries, ¬entry.port.target.Covers 5432) := by
  intro trusted
  have nothingCollected : collectPortMappings publicDatabase.render = [] := by
    decide +kernel
  have reported : Reported publicDatabase.render
      (js "no-added-public-listeners") := by
    rw [reported_listeners_iff, nothingCollected]
    exact nofun
  have allLoopback := (trusted publicDatabase).1 reported
  have isPublic : ¬∀ entry ∈ publicDatabase.entries,
      entry.port ∈ loopbackPorts := by
    decide
  exact isPublic allLoopback

end BidayaxExecutive.Reconciliation
