import Mathlib.Data.List.Sort
import MvvmSymbols.Detection

/-!
What detection finds. A variant is detected iff a probe of it hits, and the
fallback iff none does. Since a set of variants is ascending, its members
determine it, so neither the order nor the repetition of probes matters.
-/

namespace MvvmSymbols

namespace VariantSet

instance : Std.Irrefl (α := Variant) (· < ·) := ⟨fun v => Nat.lt_irrefl v.rank⟩

instance : Std.Antisymm (α := Variant) (· < ·) :=
  ⟨fun v _ h h' => absurd (Variant.lt_trans h h') (Nat.lt_irrefl v.rank)⟩

/-- Two sets with the same members are the same. -/
theorem eq_of_mem_iff {s t : VariantSet} (h : ∀ v, v ∈ s.toList ↔ v ∈ t.toList) : s = t := by
  have hlist : s.toList = t.toList := List.Pairwise.eq_of_mem_iff s.ascending t.ascending h
  cases s
  cases t
  simpa using hlist

theorem isEmpty_iff {s : VariantSet} : s.isEmpty = true ↔ ∀ v, v ∉ s.toList := by
  rw [isEmpty, List.isEmpty_iff, List.eq_nil_iff_forall_not_mem]

/-- The members of a set in canonical order. -/
theorem toList_eq_filter (s : VariantSet) : s.toList = Variant.all.filter s.contains := by
  have hall : Variant.all.Pairwise (· < ·) := by decide
  refine List.Pairwise.eq_of_mem_iff s.ascending (hall.filter _) ?_
  intro v
  rw [List.mem_filter, and_iff_right (Variant.mem_all v)]
  exact decide_eq_true_iff.symm

/-- A set is made of one variant iff that variant is its only member. -/
theorem toList_eq_singleton_iff {s : VariantSet} {v : Variant} :
    s.toList = [v] ↔ ∀ w, w ∈ s.toList ↔ w = v := by
  constructor
  · intro h w
    rw [h, List.mem_singleton]
  · intro h
    have hself : s = ⟨[v], List.pairwise_singleton _ v⟩ :=
      eq_of_mem_iff fun w => by rw [h, List.mem_singleton]
    rw [hself]

end VariantSet

/-- The configuration lets the probe run, and its marker is visible. -/
def Probe.hits (u : Universe) (config : DetectionConfig) (p : Probe) : Bool :=
  !config.isDisabled p.variant && u.contains p.marker

theorem Probe.value_run (u : Universe) (config : DetectionConfig) (p : Probe) :
    (p.run u config).value = p.hits u config := by
  unfold Probe.run Probe.hits
  cases config.isDisabled p.variant <;> cases u.contains p.marker <;> rfl

/-- The variants of all probes that hit are added to the set, one after another. -/
theorem value_runProbes (u : Universe) (config : DetectionConfig) (ps : List Probe)
    (found : VariantSet) :
    (runProbes u config ps found).value =
      (ps.filter (Probe.hits u config)).foldl (fun s p => s.insert p.variant) found := by
  induction ps generalizing found with
  | nil => rfl
  | cons p ps ih =>
      simp only [runProbes, Reported.value_bind, Probe.value_run, ih]
      cases hhit : p.hits u config <;> simp [hhit]

theorem mem_foldl_insert {v : Variant} (ps : List Probe) (found : VariantSet) :
    v ∈ (ps.foldl (fun s p => s.insert p.variant) found).toList ↔
      v ∈ found.toList ∨ ∃ p ∈ ps, p.variant = v := by
  induction ps generalizing found with
  | nil => simp
  | cons p ps ih =>
      rw [List.foldl_cons, ih, VariantSet.mem_insert]
      simp only [List.exists_mem_cons_iff, eq_comm (a := v)]
      rw [or_comm (a := p.variant = v), or_assoc]

theorem mem_value_runProbes {u : Universe} {config : DetectionConfig} {ps : List Probe}
    {v : Variant} :
    v ∈ (runProbes u config ps .empty).value.toList ↔
      ∃ p ∈ ps, p.hits u config = true ∧ p.variant = v := by
  rw [value_runProbes, mem_foldl_insert]
  simp [VariantSet.empty, List.mem_filter, and_assoc]

/-- A variant is detected iff one of its probes hits; the fallback also where no
probe hits at all. -/
theorem mem_detectWith {u : Universe} {config : DetectionConfig} {ps : List Probe}
    {v : Variant} :
    v ∈ (detectWith ps u config).value.variants.toList ↔
      (∃ p ∈ ps, p.hits u config = true ∧ p.variant = v) ∨
        (v = .none ∧ ∀ p ∈ ps, p.hits u config = false) := by
  have hempty : (runProbes u config ps .empty).value.isEmpty = true ↔
      ∀ p ∈ ps, p.hits u config = false := by
    rw [VariantSet.isEmpty_iff]
    constructor
    · intro h p hp
      rw [← Bool.not_eq_true]
      intro hhit
      exact h p.variant (mem_value_runProbes.mpr ⟨p, hp, hhit, rfl⟩)
    · intro h v hv
      obtain ⟨p, hp, hhit, -⟩ := mem_value_runProbes.mp hv
      rw [h p hp] at hhit
      cases hhit
  simp only [detectWith, Reported.value_bind, Reported.value_pure]
  split
  · rename_i hnone
    have hmiss := hempty.mp hnone
    rw [VariantSet.mem_insert, mem_value_runProbes]
    constructor
    · rintro (hv | hhit)
      · exact Or.inr ⟨hv, hmiss⟩
      · exact Or.inl hhit
    · rintro (hhit | ⟨hv, -⟩)
      · exact Or.inr hhit
      · exact Or.inl hv
  · rename_i hsome
    rw [mem_value_runProbes]
    constructor
    · exact Or.inl
    · rintro (hhit | ⟨-, hmiss⟩)
      · exact hhit
      · exact absurd (hempty.mpr hmiss) hsome

/-- The fallback sees to it that something is always detected. -/
theorem exists_mem_detectWith (ps : List Probe) (u : Universe) (config : DetectionConfig) :
    ∃ v, v ∈ (detectWith ps u config).value.variants.toList := by
  by_cases hhit : ∃ p ∈ ps, p.hits u config = true
  · obtain ⟨p, hp, hp'⟩ := hhit
    exact ⟨p.variant, mem_detectWith.mpr (Or.inl ⟨p, hp, hp', rfl⟩)⟩
  · have hmiss : ∀ p ∈ ps, p.hits u config = false := by simpa using hhit
    exact ⟨.none, mem_detectWith.mpr (Or.inr ⟨rfl, hmiss⟩)⟩

/-- Detection depends on which probes hit and on the marker of the classic profile. -/
theorem value_detectWith_congr {u w : Universe} {config config' : DetectionConfig}
    {ps : List Probe} (hhits : ∀ p ∈ ps, p.hits u config = p.hits w config')
    (hclassic : u.contains WellKnown.dxClassicMarker = w.contains WellKnown.dxClassicMarker) :
    (detectWith ps u config).value = (detectWith ps w config').value := by
  have hfound : (runProbes u config ps .empty).value = (runProbes w config' ps .empty).value := by
    rw [value_runProbes, value_runProbes, List.filter_congr hhits]
  simp only [detectWith, Reported.value_bind, hfound, hclassic, Reported.value_pure]

/-- The fallback has no probe, so it is detected only by itself. -/
theorem none_mem_detect_iff {u : Universe} {config : DetectionConfig} :
    Variant.none ∈ (detect u config).value.variants.toList ↔
      (detect u config).value.variants.toList = [.none] := by
  constructor
  · intro hnone
    have hmiss : ∀ p ∈ Probe.catalog, p.hits u config = false := by
      rcases mem_detectWith.mp hnone with ⟨p, hp, -, hvariant⟩ | ⟨-, hmiss⟩
      · simp only [Probe.catalog, List.mem_cons, List.not_mem_nil, or_false] at hp
        rcases hp with rfl | rfl | rfl <;> cases hvariant
      · exact hmiss
    rw [VariantSet.toList_eq_singleton_iff]
    intro v
    constructor
    · intro hv
      rcases mem_detectWith.mp hv with ⟨p, hp, hhit, -⟩ | ⟨hv, -⟩
      · rw [hmiss p hp] at hhit
        cases hhit
      · exact hv
    · rintro rfl
      exact hnone
  · intro halone
    rw [halone]
    exact List.mem_singleton_self _

theorem isWinUi_detectWith (ps : List Probe) (u : Universe) (config : DetectionConfig) :
    (detectWith ps u config).value.isWinUi =
      ((detectWith ps u config).value.variants.contains .dx &&
        !u.contains WellKnown.dxClassicMarker) := rfl

/-- Probes and disabled variants count as sets. -/
theorem value_detectWith_of_same_members {u : Universe} {config config' : DetectionConfig}
    {ps ps' : List Probe} (hprobes : ∀ p, p ∈ ps' ↔ p ∈ ps)
    (hdisabled : ∀ v, v ∈ config'.disabledVariants ↔ v ∈ config.disabledVariants) :
    (detectWith ps' u config').value = (detectWith ps u config).value := by
  have hhits (p : Probe) : p.hits u config' = p.hits u config := by
    have hsame : config'.isDisabled p.variant = config.isDisabled p.variant :=
      decide_eq_decide.mpr (hdisabled p.variant)
    rw [Probe.hits, Probe.hits, hsame]
  have hvariants : (detectWith ps' u config').value.variants =
      (detectWith ps u config).value.variants := by
    apply VariantSet.eq_of_mem_iff
    intro v
    simp only [mem_detectWith, hprobes, hhits]
  have hwinUi : (detectWith ps' u config').value.isWinUi =
      (detectWith ps u config).value.isWinUi := by
    rw [isWinUi_detectWith, isWinUi_detectWith, hvariants]
  calc (detectWith ps' u config').value
      = ⟨(detectWith ps' u config').value.variants, (detectWith ps' u config').value.isWinUi⟩ := rfl
    _ = (detectWith ps u config).value := by rw [hvariants, hwinUi]

/-- Detection is a function of two sets, the probes and the disabled variants.
Its result is in canonical order and without repetitions: the variants that have
a probe which hits, or the fallback where no probe does. -/
theorem detectWith_canonical (ps : List Probe) (u : Universe) (config : DetectionConfig) :
    let d := (detectWith ps u config).value
    (d.variants.toList.Pairwise (· < ·) ∧
      d.variants.toList.Sublist [.dx, .prism, .mvvmLight, .none]) ∧
    (∀ v, v ∈ d.variants.toList ↔
      (∃ p ∈ ps, p.variant = v ∧ v ∉ config.disabledVariants ∧ u.contains p.marker) ∨
        (v = .none ∧ ∀ p ∈ ps, p.variant ∈ config.disabledVariants ∨ ¬ u.contains p.marker)) ∧
    (d.isWinUi ↔ .dx ∈ d.variants.toList ∧ ¬ u.contains WellKnown.dxClassicMarker) ∧
    ∀ (ps' : List Probe) (config' : DetectionConfig), (∀ p, p ∈ ps' ↔ p ∈ ps) →
      (∀ v, v ∈ config'.disabledVariants ↔ v ∈ config.disabledVariants) →
      (detectWith ps' u config').value = d := by
  intro d
  have hhits (p : Probe) : p.hits u config = true ↔
      p.variant ∉ config.disabledVariants ∧ u.contains p.marker = true := by
    simp [Probe.hits, DetectionConfig.isDisabled]
  have hmiss (p : Probe) : p.hits u config = false ↔
      p.variant ∈ config.disabledVariants ∨ ¬ u.contains p.marker = true := by
    rw [← Bool.not_eq_true, hhits, not_and_or, not_not]
  refine ⟨⟨d.variants.ascending, ?_⟩, ?_, ?_, ?_⟩
  · rw [VariantSet.toList_eq_filter]
    exact List.filter_sublist
  · intro v
    refine mem_detectWith.trans (or_congr ?_ ?_)
    · apply exists_congr
      intro p
      rw [hhits]
      constructor
      · rintro ⟨hp, hhit, rfl⟩
        exact ⟨hp, rfl, hhit⟩
      · rintro ⟨hp, rfl, hhit⟩
        exact ⟨hp, hhit, rfl⟩
    · simp only [hmiss]
  · rw [isWinUi_detectWith, Bool.and_eq_true, Bool.not_eq_true', Bool.not_eq_true]
    exact and_congr_left' decide_eq_true_iff
  · intro ps' config' hprobes hdisabled
    exact value_detectWith_of_same_members hprobes hdisabled

/-- All markers are there and one framework is disabled: the probes backwards and
then once more, and the disabled variants repeated, change nothing. -/
theorem shuffled_probes_detect_alike :
    let u := Universe.ofEntries ⟨7⟩ (Probe.catalog.map (·.marker)).zipIdx [] []
    let config : DetectionConfig := { disabledVariants := [.mvvmLight, .none] }
    let config' : DetectionConfig := { disabledVariants := [.none, .mvvmLight, .none] }
    (detect u config).value.variants.toList = [.dx, .prism] ∧
      (detect u config).value.isWinUi = true ∧
      (detectWith (Probe.catalog.reverse ++ Probe.catalog) u config').value =
        (detect u config).value := by
  intro u config config'
  obtain ⟨-, -, -, hsame⟩ := detectWith_canonical Probe.catalog u config
  refine ⟨by decide +kernel, by decide +kernel, hsame _ config' ?_ ?_⟩
  · simp
  · simp [config, config', or_comm]

end MvvmSymbols
