import Mathlib.Logic.Function.Iterate
import MvvmSymbols.Proofs.Detection
import MvvmSymbols.Proofs.Queries

/-!
Compilations seen through views, and through views of views. A view passes on what
is found, what a handle is called and what is referenced, so tables and common
types are resolved through it as they are without it. Visibility is not passed on:
a view takes for visible what it finds. Only detection asks for visibility, so a
view can be told from its universe only by what is detected through it, and only
where the host of the universe has a visibility rule of its own.
-/

namespace MvvmSymbols

namespace Universe

theorem view_view (u : Universe) : u.view.view = u.view := rfl

theorem view_eq_self_iff {u : Universe} : u.view = u ↔ u.Plain := by
  obtain ⟨compilation, find?, nameOf?, libraries, contains⟩ := u
  simp [view, Plain, funext_iff, eq_comm]

/-- All views but the first add nothing. -/
theorem iterate_view (u : Universe) (n : Nat) : view^[n + 1] u = u.view := by
  induction n with
  | zero => rfl
  | succ n ih => rw [Function.iterate_succ_apply', ih, view_view]

/-- The host takes a type for visible iff it is found. -/
def ShowsAsFound (u : Universe) (name : String) : Prop :=
  u.contains name = (u.find? name).isSome

/-- The host's visibility rule leaves detection alone: the markers are visible iff
they are found, and so is the marker of the classic profile, which is asked about
where the primary framework is detected. -/
structure ShowsMarkers (u : Universe) : Prop where
  frameworks : ∀ p ∈ Probe.catalog, u.ShowsAsFound p.marker
  profile : u.contains WellKnown.dxMarker = true → u.ShowsAsFound WellKnown.dxClassicMarker

end Universe

/-- A framework is detected iff its own probe hits. -/
theorem mem_detect_iff {u : Universe} {config : DetectionConfig} {p : Probe}
    (hp : p ∈ Probe.catalog) :
    p.variant ∈ (detect u config).value.variants.toList ↔ p.hits u config = true := by
  have hunique : ∀ p ∈ Probe.catalog, ∀ q ∈ Probe.catalog, q.variant = p.variant → q = p := by
    decide
  have hframework : ∀ p ∈ Probe.catalog, p.variant ≠ .none := by decide
  rw [detect, mem_detectWith]
  constructor
  · rintro (⟨q, hq, hhit, hvariant⟩ | ⟨hnone, -⟩)
    · rwa [hunique p hp q hq hvariant] at hhit
    · exact absurd hnone (hframework p hp)
  · intro hhit
    exact Or.inl ⟨p, hp, hhit, rfl⟩

section Detect

variable {u : Universe}

theorem hits_view (h : u.ShowsMarkers) (config : DetectionConfig) {p : Probe}
    (hp : p ∈ Probe.catalog) : p.hits u.view config = p.hits u config := by
  have hvisible : u.view.contains p.marker = u.contains p.marker := (h.frameworks p hp).symm
  rw [Probe.hits, Probe.hits, hvisible]

/-- Through a view the same is detected if markers are visible where they are found. -/
theorem value_detect_view (h : u.ShowsMarkers) (config : DetectionConfig) :
    (detect u.view config).value = (detect u config).value := by
  have hvariants : (detect u.view config).value.variants = (detect u config).value.variants := by
    apply VariantSet.eq_of_mem_iff
    intro v
    rw [detect, detect, mem_detectWith, mem_detectWith]
    refine or_congr ?_ (and_congr_right fun _ => ?_)
    · refine exists_congr fun p => and_congr_right fun hp => ?_
      rw [hits_view h config hp]
    · refine forall₂_congr fun p hp => ?_
      rw [hits_view h config hp]
  have hprofile : (detect u.view config).value.isWinUi = (detect u config).value.isWinUi := by
    have hviewed : (detect u.view config).value.isWinUi =
        ((detect u.view config).value.variants.contains .dx &&
          !u.view.contains WellKnown.dxClassicMarker) := isWinUi_detectWith _ _ _
    have hself : (detect u config).value.isWinUi =
        ((detect u config).value.variants.contains .dx &&
          !u.contains WellKnown.dxClassicMarker) := isWinUi_detectWith _ _ _
    rw [hviewed, hself, hvariants]
    cases hdx : (detect u config).value.variants.contains .dx with
    | false => rfl
    | true =>
        -- The profile is read only now, and now the marker of the framework is visible.
        have hhit := (mem_detect_iff (p := ⟨.dx, WellKnown.dxMarker⟩) (by decide)).mp
          (of_decide_eq_true hdx)
        have hclassic := h.profile (Bool.and_eq_true_iff.mp hhit).2
        exact congrArg (true && !·) hclassic.symm
  calc (detect u.view config).value
      = ⟨(detect u.view config).value.variants, (detect u.view config).value.isWinUi⟩ := rfl
    _ = (detect u config).value := by rw [hvariants, hprofile]

/-- Where nothing is disabled, what is detected shows how the markers are seen. -/
theorem showsMarkers_of_value_detect (h : (detect u.view {}).value = (detect u {}).value) :
    u.ShowsMarkers := by
  have hits_eq (w : Universe) (p : Probe) : p.hits w {} = w.contains p.marker := by
    simp [Probe.hits, DetectionConfig.isDisabled]
  have hmarkers (p : Probe) (hp : p ∈ Probe.catalog) : u.ShowsAsFound p.marker := by
    have hsame : p.variant ∈ (detect u.view {}).value.variants.toList ↔ p.hits u.view {} = true :=
      mem_detect_iff hp
    rw [h, mem_detect_iff hp, hits_eq, hits_eq] at hsame
    exact Bool.eq_iff_iff.mpr hsame
  refine ⟨hmarkers, ?_⟩
  intro hdx
  have hdetected : Variant.dx ∈ (detect u {}).value.variants.toList :=
    (mem_detect_iff (p := ⟨.dx, WellKnown.dxMarker⟩) (by decide)).mpr (by rwa [hits_eq])
  have hprofile (w : Universe) (hw : (detect w {}).value = (detect u {}).value) :
      (detect u {}).value.isWinUi = !w.contains WellKnown.dxClassicMarker := by
    have hread := isWinUi_detectWith Probe.catalog w {}
    rw [← detect, hw] at hread
    rw [hread, VariantSet.contains, decide_eq_true hdetected, Bool.true_and]
  have hnot := (hprofile u rfl).symm.trans (hprofile u.view h)
  exact Bool.not_inj hnot

end Detect

/-- Behind any number of views a universe finds, names and references what it
does without them, and takes for visible what it finds. So tables and common types
are resolved alike for every host. What is detected under all configurations is the
same iff the host shows the markers as it finds them, and where the same is
detected resolutions have the same outcome. -/
theorem views_differ_in_visibility (u : Universe) (n : Nat) :
    let w := Universe.view^[n + 1] u
    (w.compilation = u.compilation ∧ w.find? = u.find? ∧ w.nameOf? = u.nameOf? ∧
      w.libraries = u.libraries) ∧
    (∀ name, w.contains name = (u.find? name).isSome) ∧
    (w = u ↔ u.Plain) ∧
    (∀ v isWinUi, resolveTable v w isWinUi = resolveTable v u isWinUi) ∧
    resolveCommon w = resolveCommon u ∧
    ((∀ c, (detect w c).value = (detect u c).value) ↔ u.ShowsMarkers) ∧
    ∀ config, (detect w config.detection).value = (detect u config.detection).value →
      (Context.resolve w config).outcome = (Context.resolve u config).outcome := by
  intro w
  have hw : w = u.view := u.iterate_view n
  rw [hw]
  refine ⟨⟨rfl, rfl, rfl, rfl⟩, fun _ => rfl, Universe.view_eq_self_iff, ?_, ?_, ?_, ?_⟩
  · exact fun v isWinUi => resolveTable_congr fun _ _ => rfl
  · exact resolveCommon_congr fun _ _ => rfl
  · exact ⟨fun h => showsMarkers_of_value_detect (h {}), value_detect_view⟩
  · exact fun config h => resolve_congr rfl rfl h fun _ _ => rfl

/-- A host that keeps a declared marker out of sight: the framework is not
detected in its universe, and is detected through a view. -/
theorem view_shows_hidden_marker :
    let u := Universe.ofEntries ⟨7⟩ [(WellKnown.prismMarker, 0)] [] [(WellKnown.prismMarker, false)]
    u.contains WellKnown.prismMarker = false ∧ u.view.contains WellKnown.prismMarker = true ∧
      (detect u {}).value.variants.toList = [.none] ∧
      (detect u.view {}).value.variants.toList = [.prism] ∧
      (Context.resolve u {}).outcome ≠ (Context.resolve u.view {}).outcome := by
  decide +kernel

end MvvmSymbols
