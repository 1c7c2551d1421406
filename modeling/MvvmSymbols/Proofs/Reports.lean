import MvvmSymbols.Proofs.Requirements
import MvvmSymbols.Proofs.Resolved

/-!
What a resolution has reported on its way. First come the probes of the markers,
then for one detected variant after the other the optional types that were asked
for in vain. The types that it requires leave no trace until one of them is
missing, and then that is reported, and nothing after it. A resolution that
succeeds ends with its summary instead.
-/

namespace MvvmSymbols

namespace Resolution

variable {α β : Type}

/-- On the way to a value nothing is reported. -/
def IsSilent (x : Resolution α) : Prop := ∀ a, x.outcome = .ok a → x.events = []

theorem isSilent_pure (a : α) : (pure a : Resolution α).IsSilent := fun _ _ => rfl

/-- To require a type reports nothing by itself, even where it is missing. -/
theorem isSilent_require (found : Option TypeIdentity) (failure : ResolveError) :
    (require found failure).IsSilent := by
  intro id hid
  rw [outcome_require_eq_ok] at hid
  subst hid
  rfl

theorem IsSilent.bind {x : Resolution α} {f : α → Resolution β} (hx : x.IsSilent)
    (hf : ∀ a, (f a).IsSilent) : (x >>= f).IsSilent := by
  intro b hb
  obtain ⟨a, ha, hb⟩ := outcome_bind_eq_ok.mp hb
  rw [events_bind_of_ok ha, hx a ha, hf a b hb, List.append_nil]

/-- All that is reported is the failure. -/
structure TellsFailure (x : Resolution α) : Prop where
  silent : x.IsSilent
  aloud : ∀ e, x.outcome = .error e → x.events = [e.event]

theorem tellsFailure_pure (a : α) : (pure a : Resolution α).TellsFailure :=
  ⟨isSilent_pure a, nofun⟩

theorem tellsFailure_require (found : Option TypeIdentity) (failure : ResolveError) :
    (require found failure).TellsFailure := by
  refine ⟨isSilent_require found failure, ?_⟩
  intro e he
  cases found with
  | some id => cases he
  | none =>
      cases he
      rfl

/-- A sequence tells of its failure if its steps do, since those before it were
silent. -/
theorem TellsFailure.bind {x : Resolution α} {f : α → Resolution β} (hx : x.TellsFailure)
    (hf : ∀ a, (f a).TellsFailure) : (x >>= f).TellsFailure := by
  refine ⟨hx.silent.bind fun a => (hf a).silent, ?_⟩
  intro e he
  rcases outcome_bind_eq_error.mp he with hfirst | ⟨a, ha, hlast⟩
  · rw [events_bind_of_error hfirst]
    exact hx.aloud e hfirst
  · rw [events_bind_of_ok ha, hx.silent a ha]
    exact (hf a).aloud e hlast

end Resolution

open Resolution

section Tables

variable {u : Universe} {v : Variant} {isWinUi : Bool}

/-- Of the attributes, the first that is missing is all that is reported. -/
theorem tellsFailure_resolveAttributes (u : Universe) (v : Variant) :
    (resolveAttributes u v).TellsFailure :=
  (tellsFailure_require _ _).bind fun _ => (tellsFailure_require _ _).bind fun _ =>
    (tellsFailure_require _ _).bind fun _ => tellsFailure_pure _

theorem tellsFailure_resolveCommon (u : Universe) : (resolveCommon u).TellsFailure :=
  (tellsFailure_require _ _).bind fun _ => (tellsFailure_require _ _).bind fun _ =>
    (tellsFailure_require _ _).bind fun _ => (tellsFailure_require _ _).bind fun _ =>
      (tellsFailure_require _ _).bind fun _ => tellsFailure_pure _

/-- The optional types of a variant in the order in which they are asked for. The
primary framework's services come first, although they are listed last. -/
def Variant.probeOrder (v : Variant) (isWinUi : Bool) : List String :=
  match v with
  | .dx | .none =>
    (if isWinUi then [WellKnown.supportUiServices, WellKnown.cancellationToken]
      else [WellKnown.supportServices, WellKnown.supportParentViewModel]) ++
      [WellKnown.dataErrorInfo]
  | .prism => [WellKnown.activeAware]
  | .mvvmLight => [WellKnown.cleanup, WellKnown.wpfRelayCommand]

/-- A table asks for its optional types in another order than it lists them in, but
for the same ones. -/
theorem probeOrder_perm (v : Variant) (isWinUi : Bool) :
    (v.probeOrder isWinUi).Perm (v.capabilityNames isWinUi) := by
  cases v with
  | dx | none => exact List.perm_append_singleton _ _
  | prism | mvvmLight => exact List.Perm.refl _

/-- The reports of the types among some that are not there. -/
def Universe.misses (u : Universe) (v : Variant) (names : List String) : List Event :=
  (names.filter fun name => (u.find? name).isNone).map (.capabilityAbsent v)

theorem Universe.misses_append (u : Universe) (v : Variant) (names names' : List String) :
    u.misses v (names ++ names') = u.misses v names ++ u.misses v names' := by
  simp [misses]

theorem events_probeCapability (u : Universe) (v : Variant) (name : String) :
    (probeCapability u v name).events = u.misses v [name] := by
  unfold probeCapability Universe.misses
  cases hfound : u.find? name <;> simp [hfound]

/-- The services of the other profile are not asked for, and not reported either. -/
theorem events_probeDx (u : Universe) (isWinUi : Bool) (a : Attributes) :
    (probeDx u isWinUi a).events = u.misses .dx (Variant.probeOrder .dx isWinUi) := by
  cases isWinUi <;>
    simp [probeDx, probeServices, events_probeCapability, Variant.probeOrder,
      ← Universe.misses_append]

theorem events_probePrism (u : Universe) (a : Attributes) (isWinUi : Bool) :
    (probePrism u a).events = u.misses .prism (Variant.probeOrder .prism isWinUi) := by
  simp [probePrism, events_probeCapability, Variant.probeOrder]

theorem events_probeMvvmLight (u : Universe) (a : Attributes) (isWinUi : Bool) :
    (probeMvvmLight u a).events = u.misses .mvvmLight (Variant.probeOrder .mvvmLight isWinUi) := by
  simp [probeMvvmLight, events_probeCapability, Variant.probeOrder, ← Universe.misses_append]

/-- The variant that reports name: the fallback asks as the primary framework does. -/
def Variant.reported : Variant → Variant
  | .dx | .none => .dx
  | .prism => .prism
  | .mvvmLight => .mvvmLight

/-- A table that is resolved reports its optional types that are not there. -/
theorem events_resolveTable_of_ok {t : SymbolTable}
    (h : (resolveTable v u isWinUi).outcome = .ok t) :
    (resolveTable v u isWinUi).events = u.misses v.reported (v.probeOrder isWinUi) := by
  obtain ⟨a, ha, htable⟩ := outcome_bind_eq_ok.mp h
  have hsilent := (tellsFailure_resolveAttributes u v).silent a ha
  unfold resolveTable
  rw [events_bind_of_ok ha, hsilent, List.nil_append]
  cases v with
  | dx | none =>
      have hprobes := events_probeDx u isWinUi a
      exact (events_bind_pure _ _).trans ((events_lift _).trans hprobes)
  | prism =>
      have hprobes := events_probePrism u a isWinUi
      exact (events_bind_pure _ _).trans ((events_lift _).trans hprobes)
  | mvvmLight =>
      have hprobes := events_probeMvvmLight u a isWinUi
      exact (events_bind_pure _ _).trans ((events_lift _).trans hprobes)

/-- Only an attribute can be missing, and then nothing optional was asked for. -/
theorem events_resolveTable_of_error {e : ResolveError}
    (h : (resolveTable v u isWinUi).outcome = .error e) :
    (resolveTable v u isWinUi).events = [e.event] := by
  rcases outcome_bind_eq_error.mp h with hattributes | ⟨a, -, hprobes⟩
  · unfold resolveTable
    rw [events_bind_of_error hattributes]
    exact (tellsFailure_resolveAttributes u v).aloud e hattributes
  · cases v <;> cases hprobes

end Tables

def Universe.tableReports (u : Universe) (isWinUi : Bool) (vs : List Variant) : List Event :=
  vs.flatMap fun v => u.misses v.reported (v.probeOrder isWinUi)

theorem Universe.tableReports_cons (u : Universe) (isWinUi : Bool) (v : Variant)
    (vs : List Variant) :
    u.tableReports isWinUi (v :: vs) =
      u.misses v.reported (v.probeOrder isWinUi) ++ u.tableReports isWinUi vs :=
  List.flatMap_cons

section Loop

variable {u : Universe} {isWinUi : Bool} {vs : List Variant} {slots : Slots}
  {diagnostics : Diagnostics}

/-- The loop reports table after table. -/
theorem events_resolveTables_of_ok {result : Slots × Diagnostics}
    (h : (Context.resolveTables u isWinUi vs slots diagnostics).outcome = .ok result) :
    (Context.resolveTables u isWinUi vs slots diagnostics).events = u.tableReports isWinUi vs := by
  induction vs generalizing slots diagnostics with
  | nil => rfl
  | cons v vs ih =>
      obtain ⟨t, ht, hrest⟩ := outcome_bind_eq_ok.mp h
      rw [Context.resolveTables, events_bind_of_ok ht, events_resolveTable_of_ok ht, ih hrest,
        Universe.tableReports_cons]

/-- A loop that fails has reported the tables before the one that it fails on. -/
theorem events_resolveTables_of_error {e : ResolveError}
    (h : (Context.resolveTables u isWinUi vs slots diagnostics).outcome = .error e) :
    ∃ completed v later name, vs = completed ++ v :: later ∧ e = .missingRequiredType v name ∧
      (Context.resolveTables u isWinUi vs slots diagnostics).events =
        u.tableReports isWinUi completed ++ [e.event] := by
  induction vs generalizing slots diagnostics with
  | nil => cases h
  | cons v vs ih =>
      rcases outcome_bind_eq_error.mp h with hfirst | ⟨t, ht, hrest⟩
      · obtain ⟨hrequired, -⟩ := (resolveTable_requires u v isWinUi).unmet_of_error hfirst
        obtain ⟨name, -, rfl⟩ := List.mem_map.mp hrequired
        refine ⟨[], v, vs, name, rfl, rfl, ?_⟩
        rw [Context.resolveTables, events_bind_of_error hfirst]
        exact events_resolveTable_of_error hfirst
      · obtain ⟨completed, w, later, name, rfl, rfl, hevents⟩ := ih hrest
        refine ⟨v :: completed, w, later, name, rfl, rfl, ?_⟩
        rw [Context.resolveTables, events_bind_of_ok ht, events_resolveTable_of_ok ht, hevents,
          Universe.tableReports_cons, List.append_assoc]

end Loop

def Probe.report (p : Probe) (u : Universe) (config : DetectionConfig) : List Event :=
  if config.isDisabled p.variant then [.probeSkipped p.variant]
  else if u.contains p.marker then [.markerFound p.variant p.marker]
  else []

theorem Probe.events_run (p : Probe) (u : Universe) (config : DetectionConfig) :
    (p.run u config).events = p.report u config := by
  unfold Probe.run Probe.report
  split
  · rfl
  · split <;> rfl

theorem events_runProbes (u : Universe) (config : DetectionConfig) (ps : List Probe)
    (found : VariantSet) :
    (runProbes u config ps found).events = ps.flatMap (·.report u config) := by
  induction ps generalizing found with
  | nil => rfl
  | cons p ps ih =>
      rw [runProbes, Reported.events_bind, ih, Probe.events_run, List.flatMap_cons]

/-- Detection reports its probes in the order of the catalog. -/
theorem events_detect (u : Universe) (config : DetectionConfig) :
    (detect u config).events = Probe.catalog.flatMap (·.report u config) := by
  rw [detect, detectWith, Reported.events_bind, events_runProbes]
  exact List.append_nil _

/-- What is reported before the last event: the probes, and the tables that were
completed. -/
def Universe.reportBefore (u : Universe) (config : Config) (completed : List Variant) :
    List Event :=
  Probe.catalog.flatMap (·.report u config.detection) ++
    u.tableReports (detect u config.detection).value.isWinUi completed

section Whole

variable {u : Universe} {config : Config}

/-- The report of a resolution that succeeds, from the first probe to the summary. -/
theorem events_resolve_of_ok {c : Context} (h : (Context.resolve u config).outcome = .ok c) :
    (Context.resolve u config).events =
      u.reportBefore config (u.detected config) ++
        [.contextBuilt u.compilation c.diagnostics.summary] := by
  obtain ⟨detection, hdetection, h⟩ := outcome_bind_eq_ok.mp h
  obtain ⟨⟨slots, diagnostics⟩, htables, h⟩ := outcome_bind_eq_ok.mp h
  obtain ⟨common, hcommon, h⟩ := outcome_bind_eq_ok.mp h
  cases hdetection
  cases h
  rw [Context.resolve, events_bind_of_ok rfl, events_lift, events_detect,
    events_bind_of_ok htables, events_resolveTables_of_ok htables, events_bind_of_ok hcommon,
    (tellsFailure_resolveCommon u).silent common hcommon, Universe.reportBefore, List.append_assoc]
  rfl

/-- The variants whose tables were completed before a failure: those before the
one that has failed, and all where a common type is missing. -/
def ResolveError.ComesAfter (e : ResolveError) (detected completed : List Variant) : Prop :=
  match e with
  | .missingRequiredType v _ => ∃ later, detected = completed ++ v :: later
  | .missingCommonType _ => completed = detected

/-- The report of a resolution that fails, from the first probe to the failure. -/
theorem events_resolve_of_error {e : ResolveError}
    (h : (Context.resolve u config).outcome = .error e) :
    ∃ completed, e.ComesAfter (u.detected config) completed ∧
      (Context.resolve u config).events = u.reportBefore config completed ++ [e.event] := by
  rcases outcome_bind_eq_error.mp h with hdetect | ⟨detection, hdetection, h⟩
  · cases hdetect
  cases hdetection
  rw [Context.resolve, events_bind_of_ok rfl, events_lift, events_detect]
  rcases outcome_bind_eq_error.mp h with htables | ⟨⟨slots, diagnostics⟩, htables, h⟩
  · obtain ⟨completed, v, later, name, hvariants, rfl, hevents⟩ :=
      events_resolveTables_of_error htables
    refine ⟨completed, ⟨later, hvariants⟩, ?_⟩
    rw [events_bind_of_error htables, hevents, Universe.reportBefore, List.append_assoc]
    rfl
  · rcases outcome_bind_eq_error.mp h with hcommon | ⟨common, -, h⟩
    · obtain ⟨hrequired, -⟩ := (resolveCommon_requires u).unmet_of_error hcommon
      obtain ⟨name, -, rfl⟩ := List.mem_map.mp hrequired
      refine ⟨u.detected config, rfl, ?_⟩
      rw [events_bind_of_ok htables, events_resolveTables_of_ok htables,
        events_bind_of_error hcommon, (tellsFailure_resolveCommon u).aloud _ hcommon,
        Universe.reportBefore, List.append_assoc]
      rfl
    · cases h

end Whole

/-- What an event says of an absent optional type: who asked for it, and its name. -/
def Event.absence? : Event → Option (Variant × String)
  | .capabilityAbsent v name => some (v, name)
  | _ => none

theorem Universe.filterMap_misses (u : Universe) (v : Variant) (names : List String) :
    (u.misses v names).filterMap Event.absence? =
      (names.filter fun name => (u.find? name).isNone).map (v, ·) := by
  have hread : Event.absence? ∘ Event.capabilityAbsent v = some ∘ (v, ·) := rfl
  rw [misses, List.filterMap_map, hread, List.filterMap_eq_map]

theorem Probe.filterMap_report (p : Probe) (u : Universe) (config : DetectionConfig) :
    (p.report u config).filterMap Event.absence? = [] := by
  unfold Probe.report
  split
  · rfl
  · split <;> rfl

/-- The events of a resolution name all optional types that are not there, variant by
variant. -/
theorem absences_of_resolve {u : Universe} {config : Config} {c : Context}
    (h : (Context.resolve u config).outcome = .ok c) :
    (Context.resolve u config).events.filterMap Event.absence? =
      c.detection.variants.toList.flatMap fun v =>
        ((v.probeOrder c.detection.isWinUi).filter fun name => (u.find? name).isNone).map
          (v.reported, ·) := by
  have hprobes : (Probe.catalog.flatMap (·.report u config.detection)).filterMap
      Event.absence? = [] := by
    rw [List.filterMap_flatMap]
    simp [Probe.filterMap_report]
  have hsummary : [Event.contextBuilt u.compilation c.diagnostics.summary].filterMap
      Event.absence? = [] := rfl
  obtain ⟨tables, hresolved⟩ := Context.resolvedFrom_of_resolve h
  rw [events_resolve_of_ok h, Universe.reportBefore, List.filterMap_append, List.filterMap_append,
    hprobes, hsummary, List.nil_append, List.append_nil, Universe.tableReports,
    List.filterMap_flatMap, hresolved.detection]
  simp only [Universe.filterMap_misses]
  rfl

end MvvmSymbols
