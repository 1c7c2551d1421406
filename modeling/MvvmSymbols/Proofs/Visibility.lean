import MvvmSymbols.Proofs.Capabilities
import MvvmSymbols.Proofs.Handles

/-!
What a resolution sees of a compilation: which of the names that it asks about
are declared there. Two compilations that declare the same ones are resolved
alike, in whatever order and among whatever else they declare them. Their handles
are different, but those in the same place stand for the same name.
-/

namespace MvvmSymbols

theorem content_mem_queryNames {name : String} (h : name ∈ requiredNames ++ optionalNames) :
    name ∈ queryNames :=
  List.mem_append_right _ (List.mem_cons_of_mem _ h)

namespace Universe

/-- The same of the names in question are found. -/
def LooksLike (u w : Universe) : Prop :=
  ∀ name ∈ queryNames, (w.find? name).isSome = (u.find? name).isSome

/-- A handle is named by the name that it is found under. -/
def NamesFound (u : Universe) : Prop :=
  ∀ name id, u.find? name = some id → u.nameOf? id = some name

end Universe

/-- Two contexts are the same but for their handles, and handles in the same
place have the same name, each in its own universe. -/
structure Context.SameNames (u : Universe) (c : Context) (w : Universe) (d : Context) : Prop where
  detection : d.detection = c.detection
  tables : ∀ slot, (d.tables.get slot).map (·.variant) = (c.tables.get slot).map (·.variant)
  profile : d.dx?.map (·.services.isWinUi) = c.dx?.map (·.services.isWinUi)
  filled : ∀ place, (d.get? place).isSome = (c.get? place).isSome
  names : ∀ place a b, c.get? place = some a → d.get? place = some b →
    u.nameOf? a = some place.name ∧ w.nameOf? b = some place.name
  diagnostics : d.diagnostics =
    { c.diagnostics with referencedLibraries := d.diagnostics.referencedLibraries }

theorem profile_of_resolveTable {u : Universe} {v : Variant} {isWinUi : Bool} {t : SymbolTable}
    (hv : v.slot = .primary) (h : (resolveTable v u isWinUi).outcome = .ok t) :
    t.dx?.map (·.services.isWinUi) = some isWinUi := by
  obtain ⟨s, rfl, hservices⟩ := services_of_resolveTable hv h
  exact congrArg some hservices.group

section Alike

variable {u w : Universe}

theorem value_detect_of_looksLike (hu : u.Plain) (hw : w.Plain) (h : u.LooksLike w)
    (c : DetectionConfig) : (detect w c).value = (detect u c).value := by
  have hcontains : ∀ name ∈ queryNames, w.contains name = u.contains name := by
    intro name hname
    rw [hw name, hu name, h name hname]
  refine value_detectWith_congr ?_ ?_
  · intro p hp
    have hmarker : p.marker ∈ queryNames := List.mem_append_left _ (List.mem_map_of_mem hp)
    rw [Probe.hits, Probe.hits, hcontains p.marker hmarker]
  · exact hcontains _ (List.mem_append_right _ List.mem_cons_self)

/-- A failure names a type and a variant and no handle, so it is the same. -/
theorem error_iff_of_looksLike (config : Config) (hu : u.Plain) (hw : w.Plain) (h : u.LooksLike w)
    (e : ResolveError) :
    (Context.resolve w config).outcome = .error e ↔
      (Context.resolve u config).outcome = .error e := by
  have hdetected : w.detected config = u.detected config := by
    rw [Universe.detected, Universe.detected, value_detect_of_looksLike hu hw h]
  have hunmet : w.firstUnmet? (requirements (u.detected config)) =
      u.firstUnmet? (requirements (u.detected config)) := by
    refine Universe.firstUnmet?_congr ?_
    intro r hr
    exact h _ (content_mem_queryNames (List.mem_append_left _ (typeName_mem_required hr)))
  rw [(resolve_requires w config).error_iff, (resolve_requires u config).error_iff, hdetected,
    hunmet]

end Alike

namespace Context.ResolvedFrom

variable {u w : Universe} {config : Config} {tables tables' : List (Variant × SymbolTable)}
  {c d : Context}

theorem map_variant_get (h : c.ResolvedFrom u config tables) (slot : Slot) :
    (c.tables.get slot).map (·.variant) =
      if c.detection.serves slot then some slot.variant else none := by
  rw [h.serves_eq]
  cases ht : c.tables.get slot with
  | none => rfl
  | some t => simp [h.variant_of_get ht]

/-- The services of the primary table are those of the profile in force. -/
theorem map_profile (h : c.ResolvedFrom u config tables) :
    c.dx?.map (·.services.isWinUi) =
      if c.detection.serves .primary then some c.detection.isWinUi else none := by
  rw [h.serves_eq]
  change ((c.tables.get .primary).bind (·.dx?)).map (·.services.isWinUi) = _
  cases ht : c.tables.get .primary with
  | none => rfl
  | some t =>
      obtain ⟨v, hv, hresolved⟩ := h.resolved_of_get ht
      exact profile_of_resolveTable hv hresolved

/-- The diagnostics agree on all but the number of libraries, which no lookup tells. -/
theorem diagnostics_of_looksLike (hc : c.ResolvedFrom u config tables)
    (hd : d.ResolvedFrom w config tables') (hdetection : d.detection = c.detection)
    (h : u.LooksLike w) :
    d.diagnostics =
      { c.diagnostics with referencedLibraries := d.diagnostics.referencedLibraries } := by
  have hstart : Diagnostics.start c.detection w =
      { Diagnostics.start c.detection u with referencedLibraries := w.libraries.length } := rfl
  have hcount : d.diagnostics =
      { c.diagnostics with referencedLibraries := w.libraries.length } := by
    have hthere : ∀ name ∈ optionalNames, (w.find? name).isSome = (u.find? name).isSome :=
      fun name hname => h name (content_mem_queryNames (List.mem_append_right _ hname))
    rw [hc.diagnostics_eq, hd.diagnostics_eq, hdetection, hstart,
      Diagnostics.recordVariants_libraries, Diagnostics.recordVariants_congr _ hthere]
  rw [hcount]

theorem filled_of_looksLike (hc : c.ResolvedFrom u config tables)
    (hd : d.ResolvedFrom w config tables') (hdetection : d.detection = c.detection)
    (h : u.LooksLike w) (place : Place) : (d.get? place).isSome = (c.get? place).isSome := by
  rw [hc.get?_eq, hd.get?_eq, hdetection]
  split
  · exact h place.name (content_mem_queryNames place.name_mem)
  · rfl

/-- The handles may differ from one universe to the other, the names behind them may
not. -/
theorem sameNames (hc : c.ResolvedFrom u config tables) (hd : d.ResolvedFrom w config tables')
    (hdetection : d.detection = c.detection) (h : u.LooksLike w) (hu : u.NamesFound)
    (hw : w.NamesFound) : c.SameNames u w d := by
  constructor
  case detection => exact hdetection
  case tables =>
    intro slot
    rw [hc.map_variant_get, hd.map_variant_get, hdetection]
  case profile => rw [hc.map_profile, hd.map_profile, hdetection]
  case filled => exact hc.filled_of_looksLike hd hdetection h
  case names =>
    intro place a b ha hb
    exact ⟨hu _ _ (hc.find?_of_get? ha), hw _ _ (hd.find?_of_get? hb)⟩
  case diagnostics => exact hc.diagnostics_of_looksLike hd hdetection h

end Context.ResolvedFrom

/-- Universes that look alike are resolved alike: to one error, or to contexts
that differ in their handles only. -/
theorem outcomes_of_looksLike (config : Config) {u w : Universe} (hu : u.Plain) (hw : w.Plain)
    (h : u.LooksLike w) (hunames : u.NamesFound) (hwnames : w.NamesFound) :
    (∃ e, (Context.resolve u config).outcome = .error e ∧
      (Context.resolve w config).outcome = .error e) ∨
    ∃ c d, (Context.resolve u config).outcome = .ok c ∧
      (Context.resolve w config).outcome = .ok d ∧ c.SameNames u w d := by
  have herror := error_iff_of_looksLike config hu hw h
  cases houtcome : (Context.resolve u config).outcome with
  | error e => exact Or.inl ⟨e, rfl, (herror e).mpr houtcome⟩
  | ok c =>
      cases houtcome' : (Context.resolve w config).outcome with
      | error e =>
          rw [(herror e).mp houtcome'] at houtcome
          cases houtcome
      | ok d =>
          obtain ⟨tables, hc⟩ := Context.resolvedFrom_of_resolve houtcome
          obtain ⟨tables', hd⟩ := Context.resolvedFrom_of_resolve houtcome'
          have hdetection : d.detection = c.detection := by
            rw [hc.detection, hd.detection, value_detect_of_looksLike hu hw h]
          exact Or.inr ⟨c, d, rfl, rfl, hc.sameNames hd hdetection h hunames hwnames⟩

/-- Two builders that were told of the same names in question make universes that
resolve alike under every configuration. Order, repetition, other types and
libraries of the calls have no part in it. -/
theorem frozen_resolutions_alike {calls calls' : List BuilderCall}
    (h : ∀ name ∈ queryNames, name ∈ calls'.flatMap BuilderCall.typeNames ↔
      name ∈ calls.flatMap BuilderCall.typeNames)
    (n n' : Numbering) (config : Config) :
    let u := ((Declarations.ofCalls calls).freeze n).1.toUniverse
    let w := ((Declarations.ofCalls calls').freeze n').1.toUniverse
    (∃ e, (Context.resolve u config).outcome = .error e ∧
      (Context.resolve w config).outcome = .error e) ∨
    ∃ c d, (Context.resolve u config).outcome = .ok c ∧
      (Context.resolve w config).outcome = .ok d ∧ c.SameNames u w d := by
  intro u w
  have hu := Snapshot.numbersDensely_freeze calls n
  have hw := Snapshot.numbersDensely_freeze calls' n'
  have hlooks : u.LooksLike w := by
    intro name hname
    rw [Bool.eq_iff_iff]
    exact (hw.found_iff name).trans ((h name hname).trans (hu.found_iff name).symm)
  have hplain (s : Snapshot) : s.toUniverse.Plain := s.plain_toUniverse
  exact outcomes_of_looksLike config (hplain _) (hplain _) hlooks hu.nameOf?_of_find?
    hw.nameOf?_of_find?

/-- The same names in opposite orders, among other types and libraries. -/
theorem reordered_resolutions_alike :
    let names := markerNames ++ requiredNames ++ optionalNames
    let calls : List BuilderCall := [.types names, .library "Core"]
    let calls' : List BuilderCall := [.type "App.Main", .types names.reverse, .type WellKnown.task]
    let u := ((Declarations.ofCalls calls).freeze {}).1.toUniverse
    let w := ((Declarations.ofCalls calls').freeze ⟨2⟩).1.toUniverse
    ∃ c d, (Context.resolve u {}).outcome = .ok c ∧ (Context.resolve w {}).outcome = .ok d ∧
      c.SameNames u w d := by
  intro names calls calls' u w
  have hsame : ∀ name ∈ queryNames, name ∈ calls'.flatMap BuilderCall.typeNames ↔
      name ∈ calls.flatMap BuilderCall.typeNames := by
    decide +kernel
  obtain ⟨c, hc⟩ := (resolve_requires u {}).ok_iff.mpr (by decide +kernel)
  rcases frozen_resolutions_alike hsame {} ⟨2⟩ {} with ⟨e, he, -⟩ | halike
  · rw [hc] at he
    cases he
  · exact halike

end MvvmSymbols
