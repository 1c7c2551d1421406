import Mathlib.Data.List.Perm.Basic
import MvvmSymbols.Proofs.Reports
import MvvmSymbols.Proofs.Requirements

/-!
What the diagnostics of a resolution count. The counters of the loop say the same
as one count over the optional slots of all tables. A table has one optional slot
for each capability of its variant, in one order, filled iff the type is there. So
the counts can also be made from the detected variants and from which optional
types are there, without any table, and they agree with the reports of the types
that were asked for in vain.
-/

namespace MvvmSymbols

/-- Counts a table by the names of its capabilities. -/
def Diagnostics.recordNames (s : Diagnostics) (isThere : String → Bool) (v : Variant)
    (names : List String) : Diagnostics :=
  { s with
    tablesBuilt := s.tablesBuilt + 1
    optionalResolved := s.optionalResolved + (names.filter isThere).length
    optionalAbsent := s.optionalAbsent + (names.filter (!isThere ·)).length
    absentCapabilities := s.absentCapabilities ++ (names.filter (!isThere ·)).map (v, ·) }

/-- Counts the tables of the variants one after another. -/
def Diagnostics.recordVariants (s : Diagnostics) (isThere : String → Bool) (isWinUi : Bool)
    (vs : List Variant) : Diagnostics :=
  vs.foldl (fun s v => s.recordNames isThere v (v.capabilityNames isWinUi)) s

variable {u : Universe} {v : Variant} {isWinUi : Bool}

/-- A table lists an answer for each optional type of its variant, in the order of the
diagnostics. -/
theorem capabilities_of_resolveTable {t : SymbolTable}
    (h : (resolveTable v u isWinUi).outcome = .ok t) :
    t.capabilities = (v.capabilityNames isWinUi).map fun name => ⟨name, u.find? name⟩ := by
  obtain ⟨a, -, htable⟩ := Resolution.outcome_bind_eq_ok.mp h
  cases v with
  | dx | none =>
      cases htable
      cases isWinUi <;>
        simp [SymbolTable.capabilities, Variant.capabilityNames, probeDx, probeServices,
          value_probeCapability]
  | prism =>
      cases htable
      simp [SymbolTable.capabilities, Variant.capabilityNames, probePrism, value_probeCapability]
  | mvvmLight =>
      cases htable
      simp [SymbolTable.capabilities, Variant.capabilityNames, probeMvvmLight,
        value_probeCapability]

namespace Diagnostics

theorem recordTable_eq (s : Diagnostics) {t : SymbolTable}
    (h : (resolveTable v u isWinUi).outcome = .ok t) :
    s.recordTable v t =
      s.recordNames (fun name => (u.find? name).isSome) v (v.capabilityNames isWinUi) := by
  simp only [recordTable, capabilities_of_resolveTable h, List.partition_eq_filter_filter,
    List.filter_map, List.length_map, List.map_map]
  rfl

/-- What is counted follows from what the universe finds, without a look at the
tables. -/
theorem recordAll_eq (s : Diagnostics) {tables : List (Variant × SymbolTable)}
    (h : ∀ p ∈ tables, (resolveTable p.1 u isWinUi).outcome = .ok p.2) :
    s.recordAll tables =
      s.recordVariants (fun name => (u.find? name).isSome) isWinUi (tables.map (·.1)) := by
  induction tables generalizing s with
  | nil => rfl
  | cons p tables ih =>
      obtain ⟨hp, htables⟩ := List.forall_mem_cons.mp h
      change (s.recordTable p.1 p.2).recordAll tables = _
      rw [ih _ htables, recordTable_eq s hp]
      rfl

/-- The counts depend on which optional types are there. -/
theorem recordVariants_congr (s : Diagnostics) {isThere isThere' : String → Bool}
    (h : ∀ name ∈ optionalNames, isThere name = isThere' name) (isWinUi : Bool)
    (vs : List Variant) :
    s.recordVariants isThere isWinUi vs = s.recordVariants isThere' isWinUi vs := by
  have hfilter (v : Variant) :
      (v.capabilityNames isWinUi).filter isThere = (v.capabilityNames isWinUi).filter isThere' :=
    List.filter_congr fun name hname => h name (capabilityNames_subset_optional v isWinUi hname)
  have hfilterNot (v : Variant) :
      (v.capabilityNames isWinUi).filter (!isThere ·) =
        (v.capabilityNames isWinUi).filter (!isThere' ·) :=
    List.filter_congr fun name hname => by
      rw [h name (capabilityNames_subset_optional v isWinUi hname)]
  simp only [recordVariants, recordNames, hfilter, hfilterNot]

/-- The number of libraries takes no part in the counting. -/
theorem recordVariants_libraries (s : Diagnostics) (isThere : String → Bool) (isWinUi : Bool)
    (vs : List Variant) (n : Nat) :
    { s with referencedLibraries := n }.recordVariants isThere isWinUi vs =
      { s.recordVariants isThere isWinUi vs with referencedLibraries := n } := by
  induction vs generalizing s with
  | nil => rfl
  | cons v vs ih => exact ih (s.recordNames isThere v (v.capabilityNames isWinUi))

theorem absentCapabilities_recordVariants (s : Diagnostics) (isThere : String → Bool)
    (isWinUi : Bool) (vs : List Variant) :
    (s.recordVariants isThere isWinUi vs).absentCapabilities = s.absentCapabilities ++
      vs.flatMap fun v => ((v.capabilityNames isWinUi).filter (!isThere ·)).map (v, ·) := by
  induction vs generalizing s with
  | nil => simp [recordVariants]
  | cons v vs ih =>
      have hrest := ih (s.recordNames isThere v (v.capabilityNames isWinUi))
      rw [List.flatMap_cons, ← List.append_assoc]
      exact hrest

end Diagnostics

/-- The diagnostics of a context can be told from its universe and its detection. -/
theorem Context.ResolvedFrom.diagnostics_eq {config : Config}
    {tables : List (Variant × SymbolTable)} {c : Context} (h : c.ResolvedFrom u config tables) :
    c.diagnostics = (Diagnostics.start c.detection u).recordVariants
      (fun name => (u.find? name).isSome) c.detection.isWinUi c.detection.variants.toList := by
  rw [h.diagnostics, Diagnostics.recordAll_eq _ h.resolved, h.variants]

/-- What is listed as absent: variant by variant, the types that are not there. -/
theorem Context.ResolvedFrom.absentCapabilities_eq {config : Config}
    {tables : List (Variant × SymbolTable)} {c : Context} (h : c.ResolvedFrom u config tables) :
    c.diagnostics.absentCapabilities = c.detection.variants.toList.flatMap fun v =>
      ((v.capabilityNames c.detection.isWinUi).filter fun name => (u.find? name).isNone).map
        (v, ·) := by
  rw [h.diagnostics_eq, Diagnostics.absentCapabilities_recordVariants]
  simp only [Option.not_isSome]
  rfl

/-- The optional slots of tables, in order, each with the variant of its table. -/
def optionalSlots (tables : List (Variant × SymbolTable)) : List (Variant × Capability) :=
  tables.flatMap fun p => p.2.capabilities.map (p.1, ·)

namespace Diagnostics

/-- Counts all tables at once. -/
def recount (s : Diagnostics) (tables : List (Variant × SymbolTable)) : Diagnostics :=
  { s with
    tablesBuilt := s.tablesBuilt + tables.length
    optionalResolved := s.optionalResolved + (optionalSlots tables).countP (·.2.identity.isSome)
    optionalAbsent := s.optionalAbsent + (optionalSlots tables).countP (·.2.identity.isNone)
    absentCapabilities := s.absentCapabilities ++
      ((optionalSlots tables).filter (·.2.identity.isNone)).map fun e => (e.1, e.2.typeName) }

theorem recount_append (s : Diagnostics) (tables tables' : List (Variant × SymbolTable)) :
    s.recount (tables ++ tables') = (s.recount tables).recount tables' := by
  simp [recount, optionalSlots, Nat.add_assoc]

theorem recordTable_eq_recount (s : Diagnostics) (v : Variant) (t : SymbolTable) :
    s.recordTable v t = s.recount [(v, t)] := by
  have hslots : optionalSlots [(v, t)] = t.capabilities.map (v, ·) := by simp [optionalSlots]
  have hnot (cap : Capability) : (!cap.identity.isSome) = cap.identity.isNone :=
    Option.not_isSome cap.identity
  simp only [recordTable, recount, hslots, List.partition_eq_filter_filter, List.filter_map,
    List.map_map, List.countP_eq_length_filter, List.length_map, List.length_singleton,
    Function.comp_def, hnot]

/-- The running count is the count of what was gone through. -/
theorem recordAll_eq_recount (s : Diagnostics) (tables : List (Variant × SymbolTable)) :
    s.recordAll tables = s.recount tables := by
  induction tables generalizing s with
  | nil => simp [recordAll, recount, optionalSlots]
  | cons p tables ih =>
      change (s.recordTable p.1 p.2).recordAll tables = _
      rw [ih, recordTable_eq_recount, ← recount_append, List.singleton_append]

end Diagnostics

/-- The diagnostics of a context say what a count over its tables says, and list
as absent what was reported as absent while it was resolved. -/
structure Context.Recounts (c : Context) (u : Universe) (events : List Event) : Prop where
  variants : c.diagnostics.variantsDetected = c.detection.variants.toList
  isWinUi : c.diagnostics.isWinUi = c.detection.isWinUi
  libraries : c.diagnostics.referencedLibraries = u.libraries.length
  counts : ∃ tables, c.detectedTables = .ok tables ∧
    c.diagnostics.tablesBuilt = tables.length ∧
    c.diagnostics.optionalResolved = (optionalSlots tables).countP (·.2.identity.isSome) ∧
    c.diagnostics.optionalAbsent = (optionalSlots tables).countP (·.2.identity.isNone) ∧
    c.diagnostics.absentCapabilities =
      ((optionalSlots tables).filter (·.2.identity.isNone)).map (fun e => (e.1, e.2.typeName)) ∧
    c.diagnostics.absentCapabilities.map Diagnostics.absentLabel =
      ((optionalSlots tables).filter (·.2.identity.isNone)).map fun e =>
        e.1.name ++ ":" ++ e.2.typeName
  absent_length : c.diagnostics.absentCapabilities.length = c.diagnostics.optionalAbsent
  absent_unfound : ∀ e ∈ c.diagnostics.absentCapabilities, u.find? e.2 = none
  /-- Reports and entries differ in their order, and in how they name the fallback. -/
  reported : (events.filterMap Event.absence?).Perm
    (c.diagnostics.absentCapabilities.map fun e => (e.1.reported, e.2))

namespace Context.ResolvedFrom

variable {config : Config} {tables : List (Variant × SymbolTable)} {c : Context}

theorem diagnostics_eq_recount (h : c.ResolvedFrom u config tables) :
    c.diagnostics = (Diagnostics.start c.detection u).recount tables := by
  rw [h.diagnostics, Diagnostics.recordAll_eq_recount]

/-- What is listed as absent is not in the universe. -/
theorem find?_of_mem_absent (h : c.ResolvedFrom u config tables) {e : Variant × String}
    (he : e ∈ c.diagnostics.absentCapabilities) : u.find? e.2 = none := by
  rw [h.absentCapabilities_eq] at he
  obtain ⟨v, -, he⟩ := List.mem_flatMap.mp he
  obtain ⟨name, hname, rfl⟩ := List.mem_map.mp he
  exact Option.isNone_iff_eq_none.mp (List.mem_filter.mp hname).2

/-- The types of a variant are asked for in another order than they are listed in. -/
theorem absences_perm (h : c.ResolvedFrom u config tables)
    (hc : (Context.resolve u config).outcome = .ok c) :
    ((Context.resolve u config).events.filterMap Event.absence?).Perm
      (c.diagnostics.absentCapabilities.map fun e => (e.1.reported, e.2)) := by
  rw [absences_of_resolve hc, h.absentCapabilities_eq, List.map_flatMap]
  apply List.Perm.flatMap_left
  intro v _
  rw [List.map_map]
  exact ((probeOrder_perm v c.detection.isWinUi).filter _).map _

end Context.ResolvedFrom

/-- A resolution that succeeds accounts for every optional slot of the tables that
it hands out: each is counted once, as resolved or as absent, and each absent one
was reported once. -/
theorem diagnostics_recount {config : Config} {c : Context}
    (h : (Context.resolve u config).outcome = .ok c) :
    c.Recounts u (Context.resolve u config).events := by
  obtain ⟨tables, hresolved⟩ := Context.resolvedFrom_of_resolve h
  have hrecount := hresolved.diagnostics_eq_recount
  constructor
  case variants => rw [hrecount]; rfl
  case isWinUi => rw [hrecount]; rfl
  case libraries => rw [hrecount]; rfl
  case counts =>
    refine ⟨tables, hresolved.detectedTables_eq, ?_, ?_, ?_, ?_, ?_⟩
    all_goals rw [hrecount]
    · exact Nat.zero_add _
    · exact Nat.zero_add _
    · exact Nat.zero_add _
    · exact List.nil_append _
    · simp [Diagnostics.recount, Diagnostics.start, Diagnostics.absentLabel]
  case absent_length =>
    rw [hrecount]
    simp [Diagnostics.recount, Diagnostics.start, List.countP_eq_length_filter]
  case absent_unfound => exact fun _ => hresolved.find?_of_mem_absent
  case reported => exact hresolved.absences_perm h

/-- The fallback in a compilation with one of its optional types: the two others
are listed for the fallback and reported for the primary framework. -/
theorem fallback_diagnostics_recount :
    let u := Universe.ofEntries ⟨7⟩ (requiredNames ++ [WellKnown.supportServices]).zipIdx [] []
    ∃ c, (Context.resolve u {}).outcome = .ok c ∧ c.Recounts u (Context.resolve u {}).events ∧
      c.diagnostics.absentCapabilities =
        [(.none, WellKnown.dataErrorInfo), (.none, WellKnown.supportParentViewModel)] ∧
      (Context.resolve u {}).events.filterMap Event.absence? =
        [(.dx, WellKnown.supportParentViewModel), (.dx, WellKnown.dataErrorInfo)] := by
  intro u
  obtain ⟨c, hc⟩ := (resolve_requires u {}).ok_iff.mpr (by decide +kernel)
  obtain ⟨tables, hresolved⟩ := Context.resolvedFrom_of_resolve hc
  refine ⟨c, hc, diagnostics_recount hc, ?_, by decide +kernel⟩
  rw [hresolved.absentCapabilities_eq, hresolved.detection]
  decide +kernel

end MvvmSymbols
