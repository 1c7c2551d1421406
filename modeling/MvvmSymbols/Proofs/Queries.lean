import Mathlib.Data.List.Nodup
import MvvmSymbols.Context

/-!
The names that a resolution may ask a compilation about: the markers, the marker
of the classic profile, the attributes of the three namespaces, the common types
and the optional capabilities. No name has two of these roles, so that a change
to the answer about one name cannot be felt where another one is asked about.
-/

namespace MvvmSymbols

def Variant.attributeNames (v : Variant) : List String :=
  [WellKnown.viewModelAttribute, WellKnown.propertyAttribute, WellKnown.commandAttribute].map
    v.attributeName

/-- The optional capabilities of a variant; those of the primary framework
depend on its profile. -/
def Variant.capabilityNames (v : Variant) (isWinUi : Bool) : List String :=
  match v with
  | .dx | .none =>
    WellKnown.dataErrorInfo ::
      if isWinUi then [WellKnown.supportUiServices, WellKnown.cancellationToken]
      else [WellKnown.supportServices, WellKnown.supportParentViewModel]
  | .prism => [WellKnown.activeAware]
  | .mvvmLight => [WellKnown.cleanup, WellKnown.wpfRelayCommand]

/-- The types that are required whatever the framework, in order. -/
def commonNames : List String :=
  [WellKnown.propertyChanged, WellKnown.propertyChanging, WellKnown.task, WellKnown.boolean,
    WellKnown.attributeUsage]

def requiredNames : List String := Variant.frameworks.flatMap Variant.attributeNames ++ commonNames

def optionalNames : List String :=
  [WellKnown.dataErrorInfo, WellKnown.supportServices, WellKnown.supportParentViewModel,
    WellKnown.supportUiServices, WellKnown.cancellationToken, WellKnown.activeAware,
    WellKnown.cleanup, WellKnown.wpfRelayCommand]

def markerNames : List String := Probe.catalog.map (·.marker)

/-- All names that a resolution may ask about. -/
def queryNames : List String :=
  markerNames ++ WellKnown.dxClassicMarker :: (requiredNames ++ optionalNames)

/-- All names are different, so each of them is asked about in one role only. -/
theorem queries_nodup : queryNames.Nodup := by
  decide +kernel

theorem attributeNames_subset_required (v : Variant) : v.attributeNames ⊆ requiredNames := by
  intro name hname
  refine List.mem_append_left _ (List.mem_flatMap.mpr ?_)
  cases v with
  | dx | prism | mvvmLight => exact ⟨_, by simp [Variant.frameworks], hname⟩
  | none => exact ⟨.dx, by simp [Variant.frameworks], hname⟩

theorem commonNames_subset_required : commonNames ⊆ requiredNames :=
  List.subset_append_right _ _

theorem capabilityNames_subset_optional (v : Variant) (isWinUi : Bool) :
    v.capabilityNames isWinUi ⊆ optionalNames := by
  cases v <;> cases isWinUi <;> simp [Variant.capabilityNames, optionalNames]

/-- A marker is asked about by its probe only: no table and no profile reads it. -/
theorem marker_ne_of_content {marker name : String} (hmarker : marker ∈ markerNames)
    (hname : name ∈ WellKnown.dxClassicMarker :: (requiredNames ++ optionalNames)) :
    name ≠ marker := by
  rintro rfl
  exact List.disjoint_of_nodup_append queries_nodup hmarker hname

/-- The marker of the classic profile tells the profile and nothing else. -/
theorem classic_not_content : WellKnown.dxClassicMarker ∉ requiredNames ++ optionalNames :=
  (List.nodup_cons.mp (List.Nodup.of_append_right queries_nodup)).1

/-- No optional type is required by another table. -/
theorem optional_not_required {name : String} (hname : name ∈ optionalNames) :
    name ∉ requiredNames := by
  intro hrequired
  have hcontent : (requiredNames ++ optionalNames).Nodup :=
    (List.nodup_cons.mp (List.Nodup.of_append_right queries_nodup)).2
  exact List.disjoint_of_nodup_append hcontent hrequired hname

-- What an operation gives depends on the answers about its own names only.

section Congruence

variable {u w : Universe} {v : Variant}

theorem requireAttribute_congr {relative : String}
    (h : u.find? (v.attributeName relative) = w.find? (v.attributeName relative)) :
    requireAttribute u v relative = requireAttribute w v relative := by
  simp only [requireAttribute, h]

theorem resolveAttributes_congr (h : ∀ name ∈ v.attributeNames, u.find? name = w.find? name) :
    resolveAttributes u v = resolveAttributes w v := by
  simp only [Variant.attributeNames, List.forall_mem_map, List.forall_mem_cons] at h
  obtain ⟨hviewModel, hproperty, hcommand, -⟩ := h
  simp only [resolveAttributes, requireAttribute_congr hviewModel,
    requireAttribute_congr hproperty, requireAttribute_congr hcommand]

theorem probeCapability_congr {name : String} (h : u.find? name = w.find? name) :
    probeCapability u v name = probeCapability w v name := by
  simp only [probeCapability, h]

/-- A table depends on the answers about its attributes and its capabilities
in the profile in force. -/
theorem resolveTable_congr {isWinUi : Bool}
    (h : ∀ name ∈ v.attributeNames ++ v.capabilityNames isWinUi, u.find? name = w.find? name) :
    resolveTable v u isWinUi = resolveTable v w isWinUi := by
  rw [List.forall_mem_append] at h
  obtain ⟨hattributes, hcapabilities⟩ := h
  have hprobe (x : Variant) : ∀ name ∈ v.capabilityNames isWinUi,
      probeCapability u x name = probeCapability w x name :=
    fun name hname => probeCapability_congr (hcapabilities name hname)
  unfold resolveTable
  rw [resolveAttributes_congr hattributes]
  cases v <;> cases isWinUi <;>
    simp_all [Variant.capabilityNames, probeDx, probeServices, probePrism, probeMvvmLight]

theorem requireCommon_congr {name : String} (h : u.find? name = w.find? name) :
    requireCommon u name = requireCommon w name := by
  simp only [requireCommon, h]

theorem resolveCommon_congr (h : ∀ name ∈ commonNames, u.find? name = w.find? name) :
    resolveCommon u = resolveCommon w := by
  simp only [commonNames, List.forall_mem_cons] at h
  obtain ⟨hchanged, hchanging, htask, hboolean, husage, -⟩ := h
  simp only [resolveCommon, requireCommon_congr hchanged, requireCommon_congr hchanging,
    requireCommon_congr htask, requireCommon_congr hboolean, requireCommon_congr husage]

/-- The loop over the variants asks about required and optional types only. -/
theorem resolveTables_congr {isWinUi : Bool} {vs : List Variant} {slots : Slots}
    {diagnostics : Diagnostics}
    (h : ∀ name ∈ requiredNames ++ optionalNames, u.find? name = w.find? name) :
    Context.resolveTables u isWinUi vs slots diagnostics =
      Context.resolveTables w isWinUi vs slots diagnostics := by
  have htable (v : Variant) : resolveTable v u isWinUi = resolveTable v w isWinUi := by
    apply resolveTable_congr
    intro name hname
    rcases List.mem_append.mp hname with hname | hname
    · exact h name (List.mem_append_left _ (attributeNames_subset_required v hname))
    · exact h name (List.mem_append_right _ (capabilityNames_subset_optional v isWinUi hname))
  induction vs generalizing slots diagnostics with
  | nil => rfl
  | cons v vs ih =>
      simp only [Context.resolveTables, htable, ih]

/-- A resolution depends on what is detected, on the answers about the required
and optional names, and on nothing else that a universe can be asked about. -/
theorem resolve_congr {config config' : Config} (hcompilation : u.compilation = w.compilation)
    (hlibraries : u.libraries = w.libraries)
    (hdetect : (detect u config.detection).value = (detect w config'.detection).value)
    (hfind : ∀ name ∈ requiredNames ++ optionalNames, u.find? name = w.find? name) :
    (Context.resolve u config).outcome = (Context.resolve w config').outcome := by
  have hcommon : resolveCommon u = resolveCommon w := by
    apply resolveCommon_congr
    intro name hname
    exact hfind name (List.mem_append_left _ (commonNames_subset_required hname))
  have hstart (d : Detection) : Diagnostics.start d u = Diagnostics.start d w := by
    simp only [Diagnostics.start, hlibraries]
  unfold Context.resolve
  rw [Resolution.outcome_bind, Resolution.outcome_bind, Resolution.outcome_lift,
    Resolution.outcome_lift, hdetect]
  simp only [resolveTables_congr hfind, hcommon, hcompilation, hstart]

end Congruence

end MvvmSymbols
