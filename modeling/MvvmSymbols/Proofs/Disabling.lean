import MvvmSymbols.Proofs.Detection
import MvvmSymbols.Proofs.Queries
import MvvmSymbols.Universe.Snapshot

/-!
Disabling a framework. It has the same effect as taking the framework's marker
out of the compilation: the marker is asked about by its probe only, and a probe
that is skipped and one that misses leave the same set behind.
-/

namespace MvvmSymbols

/-- The universe without some of its types, and otherwise as it was. -/
def Universe.hiding (u : Universe) (names : List String) : Universe where
  compilation := u.compilation
  find? name := if name ∈ names then none else u.find? name
  nameOf? := u.nameOf?
  libraries := u.libraries

/-- The markers of the frameworks that are disabled; the fallback has none. -/
def DetectionConfig.disabledMarkers (c : DetectionConfig) : List String :=
  c.disabledVariants.filterMap Variant.marker?

theorem marker?_eq_some_iff {p : Probe} (hp : p ∈ Probe.catalog) (v : Variant) :
    v.marker? = some p.marker ↔ v = p.variant := by
  simp only [Probe.catalog, List.mem_cons, List.not_mem_nil, or_false] at hp
  rcases hp with rfl | rfl | rfl <;> cases v <;> decide

theorem mem_disabledMarkers_iff {c : DetectionConfig} {p : Probe} (hp : p ∈ Probe.catalog) :
    p.marker ∈ c.disabledMarkers ↔ c.isDisabled p.variant = true := by
  simp [DetectionConfig.disabledMarkers, List.mem_filterMap, marker?_eq_some_iff hp,
    DetectionConfig.isDisabled]

theorem disabledMarkers_subset (c : DetectionConfig) : c.disabledMarkers ⊆ markerNames := by
  intro name hname
  obtain ⟨v, -, hv⟩ := List.mem_filterMap.mp hname
  obtain ⟨p, hp, hmarker⟩ := Option.map_eq_some_iff.mp hv
  exact List.mem_map.mpr ⟨p, List.mem_of_find?_eq_some hp, hmarker⟩

/-- Hiding markers changes no answer about a name that tables or profile are read
from. -/
theorem find?_hiding_of_content {u : Universe} {c : DetectionConfig} {name : String}
    (hname : name ∈ WellKnown.dxClassicMarker :: (requiredNames ++ optionalNames)) :
    (u.hiding c.disabledMarkers).find? name = u.find? name := by
  refine if_neg ?_
  intro hmarker
  exact marker_ne_of_content (disabledMarkers_subset c hmarker) hname rfl

/-- A probe of a hidden marker misses, as the probe of a disabled variant does. -/
theorem hits_hiding {u : Universe} (hplain : u.Plain) {c : DetectionConfig} {p : Probe}
    (hp : p ∈ Probe.catalog) : p.hits (u.hiding c.disabledMarkers) {} = p.hits u c := by
  have hfind : (u.hiding c.disabledMarkers).contains p.marker =
      (if p.marker ∈ c.disabledMarkers then none else u.find? p.marker).isSome := rfl
  unfold Probe.hits
  rw [hfind, hplain p.marker]
  simp only [mem_disabledMarkers_iff hp]
  cases c.isDisabled p.variant <;> simp [DetectionConfig.isDisabled]

theorem value_detect_hiding {u : Universe} (hplain : u.Plain) (c : DetectionConfig) :
    (detect (u.hiding c.disabledMarkers) {}).value = (detect u c).value := by
  refine value_detectWith_congr (fun p hp => hits_hiding hplain hp) ?_
  rw [hplain]
  exact congrArg Option.isSome (find?_hiding_of_content List.mem_cons_self)

/-- Only which frameworks are disabled matters: not in which order, nor how often,
nor whether the fallback is among them. -/
theorem value_detect_of_same_frameworks {u : Universe} {c c' : DetectionConfig}
    (h : ∀ v ∈ Variant.frameworks, c'.isDisabled v = c.isDisabled v) :
    (detect u c').value = (detect u c).value := by
  refine value_detectWith_congr ?_ rfl
  intro p hp
  have hframework : ∀ p ∈ Probe.catalog, p.variant ∈ Variant.frameworks := by decide
  simp only [Probe.hits, h p.variant (hframework p hp)]

/-- To disable frameworks is to hide their markers: the resolution has the same
outcome, that is the same error or the same context, with its detection, its
tables, its common types and its diagnostics. The list of disabled variants
stands for a set of frameworks. -/
theorem resolve_disabled_eq_hiding (u : Universe) (config : Config) (hplain : u.Plain) :
    (Context.resolve u config).outcome =
      (Context.resolve (u.hiding config.detection.disabledMarkers) {}).outcome ∧
    ∀ other : Config, (∀ v ∈ Variant.frameworks,
        other.detection.isDisabled v = config.detection.isDisabled v) →
      (Context.resolve u other).outcome = (Context.resolve u config).outcome := by
  refine ⟨?_, ?_⟩
  · refine resolve_congr rfl rfl (value_detect_hiding hplain config.detection).symm ?_
    intro name hname
    exact (find?_hiding_of_content (List.mem_cons_of_mem _ hname)).symm
  · intro other hother
    exact resolve_congr rfl rfl (value_detect_of_same_frameworks hother) fun _ _ => rfl

/-- With the primary framework disabled twice, and the fallback in between. -/
theorem primary_disabled_eq_hiding :
    let u := (Snapshot.mk ⟨3⟩ { types := markerNames ++ requiredNames }).toUniverse
    let config : Config := { detection := { disabledVariants := [.dx, .none, .dx] } }
    u.Plain ∧
      (Context.resolve u config).outcome =
        (Context.resolve (u.hiding config.detection.disabledMarkers) {}).outcome ∧
      (Context.resolve u { detection := { disabledVariants := [.dx] } }).outcome =
        (Context.resolve u config).outcome := by
  intro u config
  have hplain : u.Plain := Snapshot.plain_toUniverse _
  obtain ⟨hhiding, hsame⟩ := resolve_disabled_eq_hiding u config hplain
  exact ⟨hplain, hhiding, hsame _ (by decide)⟩

end MvvmSymbols
