import MvvmSymbols.Proofs.Capabilities

/-!
The tables of a context do not leak into each other. What a lookup gives is what
the variant alone is resolved to, whichever variants were resolved before and
after it. So it is decided by the answers about the variant's own names, and for
the primary table by the profile, and by nothing else that a compilation declares
or a configuration disables.
-/

namespace MvvmSymbols

/-- The names that the table of a variant is made from. -/
def Variant.ownNames (v : Variant) (isWinUi : Bool) : List String :=
  v.attributeNames ++ v.capabilityNames isWinUi

section Tables

variable {u : Universe} {v w : Variant} {t : SymbolTable}

/-- Variants of one slot are resolved to one table. -/
theorem resolveTable_of_slot {isWinUi : Bool} (hslot : v.slot = w.slot)
    (h : (resolveTable v u isWinUi).outcome = .ok t) :
    (resolveTable w u isWinUi).outcome = .ok t := by
  cases v <;> cases w <;> cases hslot
  case dx.none => exact resolveTable_fallback.mpr h
  case none.dx => exact resolveTable_fallback.mp h
  all_goals exact h

/-- The profile matters to the primary table only. -/
theorem resolveTable_profile (u : Universe) (hv : ¬ v.usesPrimaryTable) (isWinUi isWinUi' : Bool) :
    resolveTable v u isWinUi = resolveTable v u isWinUi' := by
  cases v with
  | dx | none => exact absurd rfl hv
  | prism | mvvmLight => rfl

end Tables

/-- A table that serves a variant is what the variant is resolved to by itself. -/
theorem Context.ResolvedFrom.resolved_of_lookup {u : Universe} {config : Config}
    {tables : List (Variant × SymbolTable)} {c : Context} (h : c.ResolvedFrom u config tables)
    {v : Variant} {t : SymbolTable} (ht : c.lookup v = .ok t) :
    (resolveTable v u c.isWinUi).outcome = .ok t := by
  obtain ⟨w, hmem, hslot⟩ := h.lookup_eq_ok_iff.mp ht
  have hresolved : (resolveTable w u c.isWinUi).outcome = .ok t := h.resolved (w, t) hmem
  exact resolveTable_of_slot hslot hresolved

/-- Two resolutions give a variant the same table if its own names are answered
alike, and for the primary table if the profile is the same. Nothing else has a
part in it: not what else the compilations declare, nor which other variants are
detected or disabled. Likewise the common tables are the same if the common names
are answered alike. -/
theorem tables_isolated {u w : Universe} {config config' : Config} {c d : Context}
    (hc : (Context.resolve u config).outcome = .ok c)
    (hd : (Context.resolve w config').outcome = .ok d) :
    (∀ v t t', c.lookup v = .ok t → d.lookup v = .ok t' →
      (v.usesPrimaryTable → d.isWinUi = c.isWinUi) →
      (∀ name ∈ v.ownNames c.isWinUi, w.find? name = u.find? name) → t' = t) ∧
    ((∀ name ∈ commonNames, w.find? name = u.find? name) → d.common = c.common) := by
  obtain ⟨tables, hc⟩ := Context.resolvedFrom_of_resolve hc
  obtain ⟨tables', hd⟩ := Context.resolvedFrom_of_resolve hd
  refine ⟨?_, ?_⟩
  · intro v t t' ht ht' hprofile hnames
    have hfirst : (resolveTable v u c.isWinUi).outcome = .ok t := hc.resolved_of_lookup ht
    have hsecond : (resolveTable v w d.isWinUi).outcome = .ok t' := hd.resolved_of_lookup ht'
    have hsame : resolveTable v w d.isWinUi = resolveTable v u c.isWinUi := by
      calc resolveTable v w d.isWinUi
          = resolveTable v w c.isWinUi := by
            by_cases hv : v.usesPrimaryTable
            · rw [hprofile hv]
            · exact resolveTable_profile w hv d.isWinUi c.isWinUi
        _ = resolveTable v u c.isWinUi := resolveTable_congr hnames
    rw [hsame, hfirst] at hsecond
    exact (Except.ok.inj hsecond).symm
  · intro hnames
    have hsecond := hd.common
    rw [resolveCommon_congr hnames, hc.common] at hsecond
    exact (Except.ok.inj hsecond).symm

/-- One framework by itself, and beside the primary framework in its WinUI profile
with everything declared and the third one disabled: it has one table. -/
theorem prism_table_isolated :
    let shared := (WellKnown.prismMarker :: Variant.ownNames .prism false ++ commonNames).zipIdx
    let u := Universe.ofEntries ⟨7⟩ shared ["Core"] []
    let w := Universe.ofEntries ⟨7⟩ (shared ++ (markerNames ++ requiredNames).zipIdx 100) [] []
    let config : Config := { detection := { disabledVariants := [.mvvmLight] } }
    ∃ c d t, (Context.resolve u {}).outcome = .ok c ∧ (Context.resolve w config).outcome = .ok d ∧
      c.isWinUi = false ∧ d.isWinUi = true ∧
      c.lookup .prism = .ok t ∧ d.lookup .prism = .ok t ∧ d.common = c.common := by
  intro shared u w config
  obtain ⟨c, hc⟩ := (resolve_requires u {}).ok_iff.mpr (by decide +kernel)
  obtain ⟨d, hd⟩ := (resolve_requires w config).ok_iff.mpr (by decide +kernel)
  obtain ⟨tables, hcfrom⟩ := Context.resolvedFrom_of_resolve hc
  obtain ⟨tables', hdfrom⟩ := Context.resolvedFrom_of_resolve hd
  have hwinUi : c.isWinUi = false := by
    rw [Context.isWinUi, hcfrom.detection]
    decide +kernel
  have hwinUi' : d.isWinUi = true := by
    rw [Context.isWinUi, hdfrom.detection]
    decide +kernel
  obtain ⟨t, ht, -⟩ := hcfrom.lookup_of_detected (v := .prism) (by decide +kernel)
  obtain ⟨t', ht', -⟩ := hdfrom.lookup_of_detected (v := .prism) (by decide +kernel)
  obtain ⟨htables, hcommon⟩ := tables_isolated hc hd
  have hsame : t' = t := by
    apply htables .prism t t' ht ht'
    · exact nofun
    · rw [hwinUi]
      decide +kernel
  exact ⟨c, d, t, hc, hd, hwinUi, hwinUi', ht, hsame ▸ ht', hcommon (by decide +kernel)⟩

end MvvmSymbols
