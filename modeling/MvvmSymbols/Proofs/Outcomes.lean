import MvvmSymbols.Pass
import MvvmSymbols.Proofs.Reports

/-!
What the report of a resolution tells of its outcome. All that is reported on the
way is of interest to those who look for details only. The last event is of
interest to all: it is an error where the resolution has failed, and says on what
it has failed; else it sums up what was resolved. So a reader of the report knows
the outcome, and knows it from one event.
-/

namespace MvvmSymbols

/-- The report of a resolution that has failed. -/
structure ReportsFailure (u : Universe) (config : Config) (events : List Event)
    (e : ResolveError) : Prop where
  /-- The probes, the tables that were completed, and the failure. The table that
  has failed is not among those. -/
  order : ∃ completed, e.ComesAfter (u.detected config) completed ∧
    (∀ v name, e = .missingRequiredType v name → v ∉ completed) ∧
    events = u.reportBefore config completed ++ [e.event]
  errors : events.filter (·.level = .error) = [e.event]
  infos : events.filter (·.level = .info) = []
  typeName : e.event.fields.lookup "type_name" = some (.quoted e.typeName)
  variant : ∀ v name, e = .missingRequiredType v name →
    e.event.fields.lookup "variant" = some (.plain v.name)

/-- The report of a resolution that has succeeded. -/
structure ReportsSuccess (u : Universe) (config : Config) (events : List Event)
    (c : Context) : Prop where
  /-- The probes, the tables of all detected variants, and the summary. -/
  order : events = u.reportBefore config (u.detected config) ++
    [.contextBuilt u.compilation c.diagnostics.summary]
  errors : events.filter (·.level = .error) = []
  infos : events.filter (·.level = .info) =
    [.contextBuilt u.compilation c.diagnostics.summary]
  summary : ∀ event ∈ events.getLast?, event.message = c.diagnostics.summary ∧
    event.fields.lookup "compilation" = some (.plain u.compilation.render)

theorem Probe.level_of_mem_report {p : Probe} {u : Universe} {config : DetectionConfig}
    {event : Event} (h : event ∈ p.report u config) : event.level = .debug := by
  unfold Probe.report at h
  split at h
  · rw [List.mem_singleton.mp h]
    rfl
  · split at h
    · rw [List.mem_singleton.mp h]
      rfl
    · cases h

theorem Universe.level_of_mem_misses {u : Universe} {v : Variant} {names : List String}
    {event : Event} (h : event ∈ u.misses v names) : event.level = .debug := by
  obtain ⟨name, -, rfl⟩ := List.mem_map.mp h
  rfl

/-- All that is reported before the end of a resolution are details. -/
theorem Universe.level_of_mem_reportBefore {u : Universe} {config : Config}
    {completed : List Variant} {event : Event} (h : event ∈ u.reportBefore config completed) :
    event.level = .debug := by
  rcases List.mem_append.mp h with hprobe | htable
  · obtain ⟨p, -, hp⟩ := List.mem_flatMap.mp hprobe
    exact Probe.level_of_mem_report hp
  · obtain ⟨v, -, hv⟩ := List.mem_flatMap.mp htable
    exact Universe.level_of_mem_misses hv

/-- Of a whole report, only the last event can be of a level above details. -/
theorem Universe.filter_level_report (u : Universe) (config : Config) (completed : List Variant)
    (last : Event) {level : Level} (hlevel : level ≠ .debug) :
    (u.reportBefore config completed ++ [last]).filter (·.level = level) =
      [last].filter (·.level = level) := by
  have hbefore : (u.reportBefore config completed).filter (·.level = level) = [] := by
    rw [List.filter_eq_nil_iff]
    intro event hevent
    have hdebug : event.level = .debug := u.level_of_mem_reportBefore hevent
    rw [hdebug, decide_eq_true_iff]
    exact hlevel.symm
  rw [List.filter_append, hbefore, List.nil_append]

theorem ResolveError.level_event (e : ResolveError) : e.event.level = .error := by
  cases e <;> rfl

/-- The event of a failure names the type that is missing. -/
theorem ResolveError.lookup_typeName (e : ResolveError) :
    e.event.fields.lookup "type_name" = some (.quoted e.typeName) := by
  cases e <;> rfl

/-- The variant that a failure is blamed on comes after those that were completed. -/
theorem ResolveError.ComesAfter.not_mem {e : ResolveError} {detected completed : List Variant}
    (h : e.ComesAfter detected completed) (hascending : detected.Pairwise (· < ·)) {v : Variant}
    {name : String} (he : e = .missingRequiredType v name) : v ∉ completed := by
  subst he
  obtain ⟨later, rfl⟩ := h
  intro hv
  have hbelow : v < v := (List.pairwise_append.mp hascending).2.2 v hv v List.mem_cons_self
  exact Nat.lt_irrefl _ hbelow

section Resolve

variable {u : Universe} {config : Config}

/-- A resolution that fails ends its report with the failure, and has no summary. -/
theorem reportsFailure_of_resolve {e : ResolveError}
    (h : (Context.resolve u config).outcome = .error e) :
    ReportsFailure u config (Context.resolve u config).events e := by
  obtain ⟨completed, hafter, hevents⟩ := events_resolve_of_error h
  have hascending : (u.detected config).Pairwise (· < ·) :=
    (detect u config.detection).value.variants.ascending
  constructor
  case order => exact ⟨completed, hafter, fun _ _ => hafter.not_mem hascending, hevents⟩
  case errors =>
    rw [hevents, u.filter_level_report config completed e.event (by decide)]
    simp [e.level_event]
  case infos =>
    rw [hevents, u.filter_level_report config completed e.event (by decide)]
    simp [e.level_event]
  case typeName => exact e.lookup_typeName
  case variant =>
    rintro v name rfl
    rfl

/-- A resolution that succeeds ends its report with the summary, and has no error. -/
theorem reportsSuccess_of_resolve {c : Context}
    (h : (Context.resolve u config).outcome = .ok c) :
    ReportsSuccess u config (Context.resolve u config).events c := by
  have hevents := events_resolve_of_ok h
  constructor
  case order => exact hevents
  case errors =>
    rw [hevents, u.filter_level_report config _ _ (by decide)]
    rfl
  case infos =>
    rw [hevents, u.filter_level_report config _ _ (by decide)]
    rfl
  case summary =>
    intro event hevent
    rw [hevents, List.getLast?_concat, Option.mem_some_iff] at hevent
    subst hevent
    exact ⟨rfl, rfl⟩

/-- An error is reported iff there is one. -/
theorem exists_error_event_iff :
    (∃ event ∈ (Context.resolve u config).events, event.level = .error) ↔
      ∃ e, (Context.resolve u config).outcome = .error e := by
  constructor
  · rintro ⟨event, hevent, hlevel⟩
    cases houtcome : (Context.resolve u config).outcome with
    | error e => exact ⟨e, rfl⟩
    | ok c =>
        have herrors := (reportsSuccess_of_resolve houtcome).errors
        have hmem : event ∈ (Context.resolve u config).events.filter (·.level = .error) :=
          List.mem_filter.mpr ⟨hevent, decide_eq_true hlevel⟩
        rw [herrors] at hmem
        cases hmem
  · rintro ⟨e, he⟩
    have herrors := (reportsFailure_of_resolve he).errors
    have hmem : e.event ∈ (Context.resolve u config).events.filter (·.level = .error) := by
      rw [herrors]
      exact List.mem_singleton_self _
    exact ⟨e.event, (List.mem_filter.mp hmem).1, e.level_event⟩

end Resolve

namespace Pass

variable {u : Universe} {collector : Collector} {config : Config}

/-- A pass that succeeds reports how many candidates it has. -/
theorem events_execute_of_ok {p : Pass} (h : (execute u collector config).outcome = .ok p) :
    (execute u collector config).events =
      (Context.resolve u config).events ++ [.passResolved p.candidates.length] := by
  obtain ⟨c, hc, h⟩ := Resolution.outcome_bind_eq_ok.mp h
  cases h
  rw [execute, Resolution.events_bind_of_ok hc]
  rfl

theorem events_execute_of_error {e : ResolveError}
    (h : (execute u collector config).outcome = .error e) :
    (execute u collector config).events = (Context.resolve u config).events := by
  rcases Resolution.outcome_bind_eq_error.mp h with hresolve | ⟨c, -, hrest⟩
  · rw [execute, Resolution.events_bind_of_error hresolve]
  · cases hrest

end Pass

/-- The report tells the outcome. An error is reported iff the resolution fails;
then it is the last event and the only error, it names the type that is missing
and the variant that asked for it, and nothing is summed up. Otherwise the last
event sums up the resolution, and nothing else does. A pass reports the same, and
the number of its candidates iff it succeeds. -/
theorem report_tells_outcome (u : Universe) (config : Config) (collector : Collector) :
    let resolution := Context.resolve u config
    let pass := Pass.execute u collector config
    ((∃ event ∈ resolution.events, event.level = .error) ↔
      ∃ e, resolution.outcome = .error e) ∧
    (∀ e, resolution.outcome = .error e → ReportsFailure u config resolution.events e) ∧
    (∀ c, resolution.outcome = .ok c → ReportsSuccess u config resolution.events c) ∧
    (∀ p, pass.outcome = .ok p →
      pass.events = resolution.events ++ [.passResolved p.candidates.length]) ∧
    ∀ e, pass.outcome = .error e → pass.events = resolution.events := by
  intro resolution pass
  refine ⟨exists_error_event_iff, ?_, ?_, ?_, ?_⟩
  · exact fun _ => reportsFailure_of_resolve
  · exact fun _ => reportsSuccess_of_resolve
  · exact fun _ => Pass.events_execute_of_ok
  · exact fun _ => Pass.events_execute_of_error

end MvvmSymbols
