import MvvmSymbols.Proofs.Requirements
import MvvmSymbols.Proofs.Resolved

/-!
What callers may rely on when they read a context. Lookups, the accessors of
single tables, the list of all tables and the strategies of a pass are separate
ways to the same slots; they agree with each other and with what was detected.
-/

namespace MvvmSymbols

/-- The contexts that a caller can get hold of: from a resolution, or in a pass. -/
inductive Context.Reachable (u : Universe) (config : Config) : Context → Prop where
  | resolved {c : Context} (h : (Context.resolve u config).outcome = .ok c) :
      Reachable u config c
  | executed {collector : Collector} {p : Pass}
      (h : (Pass.execute u collector config).outcome = .ok p) :
      Reachable u config p.context

/-- How a context answers its callers. -/
structure Context.LookupContract (c : Context) : Prop where
  lookup_ok_iff : ∀ v, (∃ t, c.lookup v = .ok t) ↔
    c.isDetected v ∨ (v = .dx ∨ v = .none) ∧ (c.isDetected .dx ∨ c.isDetected .none)
  lookup_error : ∀ v e, c.lookup v = .error e → e = .variantNotDetected v
  lookup_variant : ∀ v t, c.lookup v = .ok t → t.variant = if v = .none then .dx else v
  lookup_primary : ∀ t, c.lookup .dx = .ok t ↔ c.lookup .none = .ok t
  dx : (c.dx?.isSome ↔ ∃ t, c.lookup .dx = .ok t) ∧
    ∀ s, c.dx? = some s ↔ c.lookup .dx = .ok (.dx s)
  prism : (c.prism?.isSome ↔ ∃ t, c.lookup .prism = .ok t) ∧
    ∀ s, c.prism? = some s ↔ c.lookup .prism = .ok (.prism s)
  mvvmLight : (c.mvvmLight?.isSome ↔ ∃ t, c.lookup .mvvmLight = .ok t) ∧
    ∀ s, c.mvvmLight? = some s ↔ c.lookup .mvvmLight = .ok (.mvvmLight s)
  /-- One entry for each detected variant, in canonical order. -/
  detectedTables : ∃ tables, c.detectedTables = .ok tables ∧
    tables.map (·.1) = Variant.all.filter c.isDetected ∧
    ∀ p ∈ tables, c.lookup p.1 = .ok p.2
  strategies : ∀ p : Pass, p.context = c → ∃ ss, p.strategies = .ok ss ∧
    ss.map (·.variant) = Variant.all.filter c.isDetected ∧
    ∀ s ∈ ss, c.lookup s.variant = .ok s.table ∧ s.common = c.common ∧ s.isWinUi = c.isWinUi
  none_alone : c.isDetected .none ↔ c.detection.variants.toList = [.none]

namespace Context

theorem Reachable.resolve {u : Universe} {config : Config} {c : Context}
    (h : Reachable u config c) : (Context.resolve u config).outcome = .ok c := by
  cases h with
  | resolved h => exact h
  | executed h => exact Pass.resolve_of_execute h

theorem error_of_lookup {c : Context} {v : Variant} {e : LookupError}
    (h : c.lookup v = .error e) : e = .variantNotDetected v := by
  unfold lookup at h
  split at h
  · cases h
  · cases h
    rfl

theorem toList_eq_filter (c : Context) :
    c.detection.variants.toList = Variant.all.filter c.isDetected :=
  c.detection.variants.toList_eq_filter

variable {u : Universe} {config : Config} {tables : List (Variant × SymbolTable)} {c : Context}

theorem ResolvedFrom.lookup_variant (h : c.ResolvedFrom u config tables) {v : Variant}
    {t : SymbolTable} (hlookup : c.lookup v = .ok t) :
    t.variant = if v = .none then .dx else v := by
  obtain ⟨w, hmem, hslot⟩ := h.lookup_eq_ok_iff.mp hlookup
  rw [variant_of_resolveTable (h.resolved (w, t) hmem)]
  cases v <;> cases w <;> cases hslot <;> rfl

/-- The primary framework and the fallback answer for each other, all others for
themselves. -/
theorem ResolvedFrom.lookup_ok_iff (h : c.ResolvedFrom u config tables) (v : Variant) :
    (∃ t, c.lookup v = .ok t) ↔
      c.isDetected v ∨ (v = .dx ∨ v = .none) ∧ (c.isDetected .dx ∨ c.isDetected .none) := by
  have hslot : (∃ t, c.lookup v = .ok t) ↔ ∃ w, c.isDetected w ∧ w.slot = v.slot := by
    simp only [h.lookup_eq_ok_iff, h.isDetected_iff]
    constructor
    · rintro ⟨t, w, hmem, hw⟩
      exact ⟨w, ⟨t, hmem⟩, hw⟩
    · rintro ⟨w, ⟨t, hmem⟩, hw⟩
      exact ⟨t, w, hmem, hw⟩
  rw [hslot]
  constructor
  · rintro ⟨w, hdetected, hw⟩
    cases v <;> cases w <;> cases hw <;> simp [hdetected]
  · rintro (hdetected | ⟨rfl | rfl, hdetected | hdetected⟩)
    · exact ⟨v, hdetected, rfl⟩
    all_goals exact ⟨_, hdetected, rfl⟩

/-- An accessor gives the payload of the table in its slot, and tables stand only
in the slots of their variants. -/
theorem ResolvedFrom.payload (h : c.ResolvedFrom u config tables) {α : Type} {v : Variant}
    (hv : v ≠ .none) {payload? : SymbolTable → Option α} {make : α → SymbolTable}
    (hpayload : ∀ t s, payload? t = some s ↔ t = make s)
    (hvariant : ∀ t : SymbolTable, t.variant = v → ∃ s, t = make s) :
    (((c.tables.get v.slot).bind payload?).isSome ↔ ∃ t, c.lookup v = .ok t) ∧
      ∀ s, (c.tables.get v.slot).bind payload? = some s ↔ c.lookup v = .ok (make s) := by
  cases hget : c.tables.get v.slot with
  | none => simp [lookup, hget]
  | some t =>
      have hlookup : c.lookup v = .ok t := by
        simp only [lookup, hget]
      obtain ⟨s, rfl⟩ := hvariant t (by rw [h.lookup_variant hlookup, if_neg hv])
      have hs : payload? (make s) = some s := (hpayload _ _).mpr rfl
      refine ⟨by simp [hlookup, hs], ?_⟩
      intro s'
      rw [hlookup, Option.bind_some, hpayload]
      simp

/-- A pass plans one strategy for each table, in canonical order. -/
theorem ResolvedFrom.strategies (h : c.ResolvedFrom u config tables) {p : Pass}
    (hp : p.context = c) :
    p.strategies = .ok (tables.map fun (variant, table) =>
      { variant, table, common := c.common, isWinUi := c.isWinUi }) := by
  unfold Pass.strategies
  rw [hp, h.detectedTables_eq]
  rfl

end Context

open Context in
/-- Every context that a caller can get hold of answers for what was detected in
its universe, and for nothing else. -/
theorem reachable_lookup_contract {u : Universe} {config : Config} {c : Context}
    (hreachable : c.Reachable u config) :
    c.detection = (detect u config.detection).value ∧ c.LookupContract := by
  obtain ⟨tables, h⟩ := resolvedFrom_of_resolve hreachable.resolve
  have hnames : tables.map (·.1) = Variant.all.filter c.isDetected := by
    rw [h.variants, c.toList_eq_filter]
  refine ⟨h.detection, ?_⟩
  constructor
  case lookup_ok_iff => exact h.lookup_ok_iff
  case lookup_error => exact fun _ _ => error_of_lookup
  case lookup_variant => exact fun _ _ => h.lookup_variant
  case lookup_primary =>
    intro t
    have hslot : Variant.slot .dx = Variant.slot .none := by decide
    rw [h.lookup_eq_ok_iff, h.lookup_eq_ok_iff, hslot]
  case dx =>
    refine h.payload (v := .dx) (by decide) ?_ ?_
    · rintro (_ | _ | _) _ <;> simp [SymbolTable.dx?]
    · rintro (_ | _ | _) ht <;> simp_all [SymbolTable.variant]
  case prism =>
    refine h.payload (v := .prism) (by decide) ?_ ?_
    · rintro (_ | _ | _) _ <;> simp [SymbolTable.prism?]
    · rintro (_ | _ | _) ht <;> simp_all [SymbolTable.variant]
  case mvvmLight =>
    refine h.payload (v := .mvvmLight) (by decide) ?_ ?_
    · rintro (_ | _ | _) _ <;> simp [SymbolTable.mvvmLight?]
    · rintro (_ | _ | _) ht <;> simp_all [SymbolTable.variant]
  case detectedTables =>
    exact ⟨tables, h.detectedTables_eq, hnames, fun p hp => h.lookup_of_mem hp⟩
  case strategies =>
    intro p hp
    refine ⟨_, h.strategies hp, ?_, ?_⟩
    · rw [List.map_map, ← hnames]
      rfl
    · intro s hs
      obtain ⟨q, hq, rfl⟩ := List.mem_map.mp hs
      exact ⟨h.lookup_of_mem hq, rfl, rfl⟩
  case none_alone =>
    have hdetected : c.isDetected .none ↔ Variant.none ∈ c.detection.variants.toList :=
      decide_eq_true_iff
    rw [hdetected, h.detection]
    exact none_mem_detect_iff

/-- The contract of a context with two frameworks, where a third one is disabled. -/
theorem two_frameworks_lookup_contract :
    let u := Universe.ofEntries ⟨7⟩ (markerNames ++ requiredNames).zipIdx [] []
    let config : Config := { detection := { disabledVariants := [.none, .prism] } }
    ∃ c : Context, c.Reachable u config ∧
      c.detection = (detect u config.detection).value ∧ c.LookupContract := by
  intro u config
  obtain ⟨c, hc⟩ := (resolve_requires u config).ok_iff.mpr (by decide +kernel)
  exact ⟨c, .resolved hc, reachable_lookup_contract (.resolved hc)⟩

end MvvmSymbols
