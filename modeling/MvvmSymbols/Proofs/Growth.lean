import MvvmSymbols.Proofs.Places
import MvvmSymbols.Proofs.Recount
import MvvmSymbols.Proofs.Requirements

/-!
Growing a compilation: more types become visible, and those that were visible
keep their handles. What a context held before, a context of the grown
compilation holds too. New types can stop a resolution in one manner only: the
marker of a framework that was not detected before brings the requirements of
that framework with it. And while a missing type stays missing, new types can
rescue a resolution in one manner only: a marker takes the place of the fallback,
for which the type was required.
-/

namespace MvvmSymbols

/-- Whatever is found in `u` is found in `w`, under the same handle. -/
def Universe.GrowsTo (u w : Universe) : Prop :=
  ∀ name id, u.find? name = some id → w.find? name = some id

/-- A table agrees with an earlier one on its attributes, and on the capabilities
that were there, as far as it asks for them. -/
structure SymbolTable.GrowsTo (t t' : SymbolTable) : Prop where
  attributes : t'.attributes = t.attributes
  capabilities : ∀ cap ∈ t.capabilities, cap.identity.isSome →
    ∀ cap' ∈ t'.capabilities, cap'.typeName = cap.typeName → cap'.identity = cap.identity

namespace Universe.GrowsTo

variable {u w : Universe} {config : Config}

theorem find?_eq (h : u.GrowsTo w) {name : String} (hfound : (u.find? name).isSome) :
    w.find? name = u.find? name := by
  obtain ⟨id, hid⟩ := Option.isSome_iff_exists.mp hfound
  rw [hid]
  exact h name id hid

theorem hits_mono (h : u.GrowsTo w) (hu : u.Plain) (hw : w.Plain) {c : DetectionConfig}
    {p : Probe} (hp : p.hits u c = true) : p.hits w c = true := by
  simp only [Probe.hits, Bool.and_eq_true, hu p.marker, hw p.marker] at hp ⊢
  refine ⟨hp.1, ?_⟩
  rw [h.find?_eq hp.2]
  exact hp.2

theorem detected_mono (h : u.GrowsTo w) (hu : u.Plain) (hw : w.Plain) {v : Variant}
    (hv : v ≠ .none) (hdetected : v ∈ u.detected config) : v ∈ w.detected config := by
  rcases mem_detectWith.mp hdetected with ⟨p, hp, hhit, hvariant⟩ | ⟨hnone, -⟩
  · exact mem_detectWith.mpr (Or.inl ⟨p, hp, h.hits_mono hu hw hhit, hvariant⟩)
  · exact absurd hnone hv

/-- The fallback does not come back when a compilation grows. -/
theorem none_detected_of_grown (h : u.GrowsTo w) (hu : u.Plain) (hw : w.Plain)
    (hnone : .none ∈ w.detected config) : .none ∈ u.detected config := by
  have halone : w.detected config = [.none] := none_mem_detect_iff.mp hnone
  obtain ⟨v, hdetected⟩ := exists_mem_detectWith Probe.catalog u config.detection
  by_cases hv : v = .none
  · exact hv ▸ hdetected
  · have hkept : v ∈ w.detected config := h.detected_mono hu hw hv hdetected
    rw [halone, List.mem_singleton] at hkept
    exact absurd hkept hv

/-- What a resolution found is still there, so a later one fails on a type that
was not required before. -/
theorem not_required_of_unmet (h : u.GrowsTo w) {c : Context}
    (hc : (Context.resolve u config).outcome = .ok c) {e : ResolveError}
    (hunmet : w.find? e.typeName = none) : e ∉ requirements (u.detected config) := by
  intro he
  have hfound : (u.find? e.typeName).isSome := (resolve_requires u config).ok_iff.mp ⟨c, hc⟩ e he
  rw [← h.find?_eq hfound, hunmet] at hfound
  cases hfound

/-- If a resolution that succeeded fails later, a framework that is new is to blame. -/
theorem new_failure (h : u.GrowsTo w) (hu : u.Plain) (hw : w.Plain) {c : Context}
    (hc : (Context.resolve u config).outcome = .ok c) {e : ResolveError}
    (he : (Context.resolve w config).outcome = .error e) :
    ∃ v name, e = .missingRequiredType v name ∧ v ≠ .none ∧ v ∈ w.detected config ∧
      v ∉ u.detected config := by
  obtain ⟨hrequired, hunmet⟩ := (resolve_requires w config).unmet_of_error he
  have hnew := h.not_required_of_unmet hc hunmet
  rcases mem_requirements_iff.mp hrequired with ⟨v, hv, name, hname, rfl⟩ | ⟨name, hname, rfl⟩
  · have hundetected : v ∉ u.detected config := by
      intro hv'
      exact hnew (missingRequiredType_mem_requirements.mpr ⟨hv', hname⟩)
    refine ⟨v, name, rfl, ?_, hv, hundetected⟩
    -- The fallback asks for nothing new: where it is detected, it was before.
    rintro rfl
    exact hundetected (h.none_detected_of_grown hu hw hv)
  · exact absurd (missingCommonType_mem_requirements.mpr hname) hnew

theorem old_failure (h : u.GrowsTo w) (hu : u.Plain) (hw : w.Plain) {e : ResolveError}
    (he : (Context.resolve u config).outcome = .error e) (hunmet : w.find? e.typeName = none) :
    (∃ e', (Context.resolve w config).outcome = .error e') ∨
      (∃ name, e = .missingRequiredType .none name) ∧ ∃ v ∈ w.detected config, v ≠ .none := by
  have hw' := resolve_requires w config
  have hrequired := ((resolve_requires u config).unmet_of_error he).1
  rcases mem_requirements_iff.mp hrequired with ⟨v, hv, name, hname, rfl⟩ | ⟨name, hname, rfl⟩
  · by_cases hkept : v ∈ w.detected config
    · have hstill := missingRequiredType_mem_requirements.mpr ⟨hkept, hname⟩
      exact Or.inl (hw'.error_of_unmet hstill hunmet)
    · -- Only the fallback can be lost, and then something else is detected.
      have hfallback : v = .none := by
        by_contra hv'
        exact hkept (h.detected_mono hu hw hv' hv)
      subst hfallback
      obtain ⟨v, hdetected⟩ := exists_mem_detectWith Probe.catalog w config.detection
      refine Or.inr ⟨⟨name, rfl⟩, v, hdetected, ?_⟩
      rintro rfl
      exact hkept hdetected
  · have hstill : .missingCommonType name ∈ requirements (w.detected config) :=
      missingCommonType_mem_requirements.mpr hname
    exact Or.inl (hw'.error_of_unmet hstill hunmet)

/-- Common types that have been found stay what they were. -/
theorem common_eq (h : u.GrowsTo w) {common common' : CommonTable}
    (hu : (resolveCommon u).outcome = .ok common) (hw : (resolveCommon w).outcome = .ok common') :
    common' = common := by
  have hfound : ∀ name ∈ commonNames, (u.find? name).isSome := by
    have hmet := (resolveCommon_requires u).ok_iff.mp ⟨common, hu⟩
    simpa [commonRequirements, ResolveError.typeName] using hmet
  have hsame : resolveCommon w = resolveCommon u :=
    resolveCommon_congr fun name hname => h.find?_eq (hfound name hname)
  rw [hsame, hu] at hw
  exact (Except.ok.inj hw).symm

/-- The profile may be another one than before. -/
theorem table_grows (h : u.GrowsTo w) {v : Variant} {isWinUi isWinUi' : Bool}
    {t t' : SymbolTable} (ht : (resolveTable v u isWinUi).outcome = .ok t)
    (ht' : (resolveTable v w isWinUi').outcome = .ok t') : t.GrowsTo t' := by
  constructor
  case attributes =>
    have hfound : ∀ name ∈ v.attributeNames, (u.find? name).isSome := by
      have hmet := (resolveTable_requires u v isWinUi).ok_iff.mp ⟨t, ht⟩
      simpa [Variant.requirements, ResolveError.typeName] using hmet
    have hsame : resolveAttributes w v = resolveAttributes u v :=
      resolveAttributes_congr fun name hname => h.find?_eq (hfound name hname)
    have hattributes := (answers_of_resolveTable ht').1
    rw [hsame, (answers_of_resolveTable ht).1] at hattributes
    exact (Except.ok.inj hattributes).symm
  case capabilities =>
    rw [capabilities_of_resolveTable ht, capabilities_of_resolveTable ht']
    simp only [List.forall_mem_map]
    intro name _ hfound name' _ heq
    rw [heq]
    exact h.find?_eq hfound

end Universe.GrowsTo

/-- When a compilation grows, its frameworks stay detected, and what its context
held stays as it was. A resolution that succeeded fails only on behalf of a
framework that is new. One that failed keeps failing while the type is missing,
unless that type was required for the fallback and a framework takes its place. -/
theorem resolve_of_grown {u w : Universe} (hu : u.Plain) (hw : w.Plain) (h : u.GrowsTo w)
    (config : Config) :
    (∀ v, v ≠ .none → v ∈ u.detected config → v ∈ w.detected config) ∧
    (∀ c e, (Context.resolve u config).outcome = .ok c →
      (Context.resolve w config).outcome = .error e →
      ∃ v name, e = .missingRequiredType v name ∧ v ≠ .none ∧ v ∈ w.detected config ∧
        v ∉ u.detected config) ∧
    (∀ e, (Context.resolve u config).outcome = .error e → w.find? e.typeName = none →
      (∃ e', (Context.resolve w config).outcome = .error e') ∨
        (∃ name, e = .missingRequiredType .none name) ∧ ∃ v ∈ w.detected config, v ≠ .none) ∧
    ∀ c d, (Context.resolve u config).outcome = .ok c →
      (Context.resolve w config).outcome = .ok d →
      d.common = c.common ∧
        ∀ v, v ≠ .none → v ∈ u.detected config →
          ∃ t t', c.lookup v = .ok t ∧ d.lookup v = .ok t' ∧ t.GrowsTo t' := by
  refine ⟨?_, ?_, ?_, ?_⟩
  · intro v hv
    exact h.detected_mono hu hw hv
  · intro c e hc he
    exact h.new_failure hu hw hc he
  · intro e he hunmet
    exact h.old_failure hu hw he hunmet
  · intro c d hc hd
    obtain ⟨tables, hc⟩ := Context.resolvedFrom_of_resolve hc
    obtain ⟨tables', hd⟩ := Context.resolvedFrom_of_resolve hd
    refine ⟨h.common_eq hc.common hd.common, ?_⟩
    intro v hv hdetected
    obtain ⟨t, hlookup, ht⟩ := hc.lookup_of_detected hdetected
    obtain ⟨t', hlookup', ht'⟩ := hd.lookup_of_detected (h.detected_mono hu hw hv hdetected)
    exact ⟨t, t', hlookup, hlookup', h.table_grows ht ht'⟩

theorem Universe.growsTo_append (compilation : CompilationId) (entries more : List (String × Nat)) :
    (Universe.ofEntries compilation entries [] []).GrowsTo
      (Universe.ofEntries compilation (entries ++ more) [] []) := by
  intro name id hid
  obtain ⟨entry, hentry, rfl⟩ := Option.map_eq_some_iff.mp hid
  have hkept : (entries ++ more).find? (·.1 = name) = some entry := by
    rw [List.find?_append, hentry, Option.some_or]
  exact Option.map_eq_some_iff.mpr ⟨entry, hkept, rfl⟩

/-- The primary framework in its WinUI profile. The marker of the classic profile
turns its services round and breaks nothing; the marker of another framework,
alone, stops the resolution. -/
theorem grown_winUi_resolutions :
    let known := (WellKnown.dxMarker :: Variant.attributeNames .dx ++ commonNames ++
      [WellKnown.dataErrorInfo, WellKnown.supportUiServices]).zipIdx
    let u := Universe.ofEntries ⟨7⟩ known [] []
    let classic := Universe.ofEntries ⟨7⟩ (known ++ [(WellKnown.dxClassicMarker, 20)]) [] []
    let prism := Universe.ofEntries ⟨7⟩ (known ++ [(WellKnown.prismMarker, 20)]) [] []
    (u.Plain ∧ classic.Plain ∧ prism.Plain) ∧ u.GrowsTo classic ∧ u.GrowsTo prism ∧
    (detect u {}).value.isWinUi = true ∧ (detect classic {}).value.isWinUi = false ∧
    (∃ c d t t', (Context.resolve u {}).outcome = .ok c ∧
      (Context.resolve classic {}).outcome = .ok d ∧ d.common = c.common ∧
      c.lookup .dx = .ok t ∧ d.lookup .dx = .ok t' ∧ t.GrowsTo t') ∧
    ∃ v name, (Context.resolve prism {}).outcome = .error (.missingRequiredType v name) ∧
      v ∈ prism.detected {} ∧ v ∉ u.detected {} := by
  intro known u classic prism
  have hclassic : u.GrowsTo classic := Universe.growsTo_append ⟨7⟩ known _
  have hprism : u.GrowsTo prism := Universe.growsTo_append ⟨7⟩ known _
  have hplain (entries : List (String × Nat)) : (Universe.ofEntries ⟨7⟩ entries [] []).Plain :=
    fun _ => rfl
  obtain ⟨c, hc⟩ := (resolve_requires u {}).ok_iff.mpr (by decide +kernel)
  obtain ⟨d, hd⟩ := (resolve_requires classic {}).ok_iff.mpr (by decide +kernel)
  refine ⟨⟨hplain _, hplain _, hplain _⟩, hclassic, hprism, by decide +kernel, by decide +kernel,
    ?_, ?_⟩
  · obtain ⟨-, -, -, hcontexts⟩ := resolve_of_grown (hplain _) (hplain _) hclassic {}
    obtain ⟨hcommon, htables⟩ := hcontexts c d hc hd
    obtain ⟨t, t', ht, ht', hgrows⟩ := htables .dx (by decide) (by decide +kernel)
    exact ⟨c, d, t, t', hc, hd, hcommon, ht, ht', hgrows⟩
  · obtain ⟨-, hnew, -, -⟩ := resolve_of_grown (hplain _) (hplain _) hprism {}
    have he : (Context.resolve prism {}).outcome = .error (.missingRequiredType .prism
        (Variant.attributeName .prism WellKnown.viewModelAttribute)) :=
      ((resolve_requires prism {}).error_iff _).mpr (by decide +kernel)
    obtain ⟨v, name, heq, -, hv, hv'⟩ := hnew c _ hc he
    exact ⟨v, name, heq ▸ he, hv, hv'⟩

end MvvmSymbols
