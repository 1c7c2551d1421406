import MvvmSymbols.Proofs.Lookup
import MvvmSymbols.Proofs.Places
import MvvmSymbols.Proofs.Recount

/-!
The optional capabilities of a table. The listing of a table is read off its
optional fields, each once and under the name of the type that was asked for, so
that it agrees with the accessors of the table and with the universe. Of the two
groups of services the primary table shows the one of its profile; what the
universe declares for the other profile is not seen through it.
-/

namespace MvvmSymbols

namespace OptionalField

def all : List OptionalField :=
  [.dataErrorInfo, .services, .parentViewModel, .uiServices, .cancellationToken, .activeAware,
    .cleanup, .wpfRelayCommand]

theorem typeName_injective {f g : OptionalField} (h : f.typeName = g.typeName) : f = g := by
  have hplace : Place.optional f = Place.optional g := Place.name_injective h
  exact Place.optional.inj hplace

theorem nodup_map_typeName_all : (all.map typeName).Nodup := by
  have hnodup : all.Nodup := by decide
  exact hnodup.map fun _ _ => typeName_injective

end OptionalField

/-- The optional fields of the services of a profile. -/
def Services.has : Services → OptionalField → Bool
  | .classic .., field => field = .services ∨ field = .parentViewModel
  | .winUi .., field => field = .uiServices ∨ field = .cancellationToken

/-- The optional fields of a table. -/
def SymbolTable.has : SymbolTable → OptionalField → Bool
  | .dx t, field => field = .dataErrorInfo || t.services.has field
  | .prism _, field => field = .activeAware
  | .mvvmLight _, field => field = .cleanup ∨ field = .wpfRelayCommand

namespace SymbolTable

def entry (t : SymbolTable) (field : OptionalField) : Capability := ⟨field.typeName, t.get? field⟩

/-- What a table lists are the fields that it has, in one order for all tables. -/
theorem capabilities_eq (t : SymbolTable) :
    t.capabilities = (OptionalField.all.filter t.has).map t.entry := by
  cases t with
  | dx t =>
      obtain ⟨attributes, dataErrorInfo, services⟩ := t
      cases services <;> rfl
  | prism t => rfl
  | mvvmLight t => rfl

theorem nodup_capabilities (t : SymbolTable) : (t.capabilities.map (·.typeName)).Nodup := by
  rw [capabilities_eq, List.map_map]
  have hsublist : ((OptionalField.all.filter t.has).map OptionalField.typeName).Sublist
      (OptionalField.all.map OptionalField.typeName) := List.filter_sublist.map _
  exact OptionalField.nodup_map_typeName_all.sublist hsublist

/-- A field of a table has one entry, and no other entry has its name. -/
theorem filter_capabilities (t : SymbolTable) {field : OptionalField} (h : t.has field = true) :
    t.capabilities.filter (·.typeName = field.typeName) = [t.entry field] := by
  -- To select a name is to select a field, and that can be done before the listing.
  have hname (f : OptionalField) : f.typeName = field.typeName ↔ f = field :=
    ⟨OptionalField.typeName_injective, congrArg _⟩
  have hfield : OptionalField.all.filter (· = field) = [field] := by
    cases field <;> rfl
  calc t.capabilities.filter (·.typeName = field.typeName)
      = ((OptionalField.all.filter t.has).filter (·.typeName = field.typeName)).map t.entry := by
        rw [capabilities_eq, List.filter_map]
        rfl
    _ = ((OptionalField.all.filter (· = field)).filter t.has).map t.entry := by
        simp only [hname, List.filter_filter, Bool.and_comm]
    _ = [t.entry field] := by
        rw [hfield]
        simp [h]

theorem exists_field_of_mem_capabilities {t : SymbolTable} {cap : Capability}
    (h : cap ∈ t.capabilities) : ∃ field, t.has field = true ∧ cap = t.entry field := by
  rw [capabilities_eq] at h
  obtain ⟨field, hfield, rfl⟩ := List.mem_map.mp h
  exact ⟨field, (List.mem_filter.mp hfield).2, rfl⟩

/-- Nothing stands in an optional field that the table does not have. -/
theorem has_of_get? {t : SymbolTable} {field : OptionalField} {id : TypeIdentity}
    (h : t.get? field = some id) : t.has field = true := by
  cases t with
  | dx t =>
      obtain ⟨attributes, dataErrorInfo, services⟩ := t
      cases services <;> cases field <;> simp_all [get?, has, Services.get?, Services.has]
  | prism t => cases field <;> simp_all [get?, has]
  | mvvmLight t => cases field <;> simp_all [get?, has]

/-- The listing of a table agrees with a universe and with the fields of the table. -/
structure ListsAnswers (t : SymbolTable) (u : Universe) : Prop where
  answers : ∀ cap ∈ t.capabilities, cap.identity = u.find? cap.typeName
  names_nodup : (t.capabilities.map (·.typeName)).Nodup
  listed_once : ∀ field, t.has field →
    t.capabilities.filter (·.typeName = field.typeName) = [t.entry field]
  lists_fields : ∀ cap ∈ t.capabilities, ∃ field, t.has field ∧ cap = t.entry field
  fields_filled : ∀ field id, t.get? field = some id → t.has field

end SymbolTable

/-- Services are those of one profile: they answer for the types of that profile,
and for none that only the other one has. -/
structure Services.OfProfile (s : Services) (u : Universe) (isWinUi : Bool) : Prop where
  group : s.isWinUi = isWinUi
  servicesInterface : s.servicesInterface =
    u.find? (if isWinUi then WellKnown.supportUiServices else WellKnown.supportServices)
  parentViewModel : s.parentViewModel? =
    if isWinUi then none else u.find? WellKnown.supportParentViewModel
  cancellationToken : s.cancellationToken? =
    if isWinUi then u.find? WellKnown.cancellationToken else none

section Resolved

variable {u : Universe} {v : Variant} {isWinUi : Bool} {t : SymbolTable}

theorem listsAnswers_of_resolveTable (h : (resolveTable v u isWinUi).outcome = .ok t) :
    t.ListsAnswers u := by
  constructor
  case answers =>
    rw [capabilities_of_resolveTable h, List.forall_mem_map]
    intro name _
    rfl
  case names_nodup => exact t.nodup_capabilities
  case listed_once => exact fun _ => t.filter_capabilities
  case lists_fields => exact fun _ => SymbolTable.exists_field_of_mem_capabilities
  case fields_filled => exact fun _ _ => SymbolTable.has_of_get?

/-- The group of services is that of the profile, and the other group is not there. -/
theorem ofProfile_probeServices (u : Universe) (isWinUi : Bool) :
    (probeServices u isWinUi).value.OfProfile u isWinUi := by
  cases isWinUi <;> constructor <;>
    simp [probeServices, value_probeCapability, Services.isWinUi, Services.servicesInterface,
      Services.parentViewModel?, Services.cancellationToken?]

theorem services_of_resolveTable (hv : v.slot = .primary)
    (h : (resolveTable v u isWinUi).outcome = .ok t) :
    ∃ s, t = .dx s ∧ s.services.OfProfile u isWinUi := by
  obtain ⟨a, -, htable⟩ := Resolution.outcome_bind_eq_ok.mp h
  cases v with
  | dx | none =>
      cases htable
      exact ⟨_, rfl, ofProfile_probeServices u isWinUi⟩
  | prism | mvvmLight => cases hv

/-- The fallback has the attributes of the primary framework; only failures tell
which of the two has asked. -/
theorem resolveAttributes_fallback {a : Attributes} :
    (resolveAttributes u .none).outcome = .ok a ↔ (resolveAttributes u .dx).outcome = .ok a := by
  simp only [resolveAttributes, requireAttribute, Resolution.outcome_bind_eq_ok,
    outcome_require_eq_ok]
  exact Iff.rfl

theorem resolveTable_fallback :
    (resolveTable .none u isWinUi).outcome = .ok t ↔
      (resolveTable .dx u isWinUi).outcome = .ok t := by
  simp only [resolveTable, Resolution.outcome_bind_eq_ok, resolveAttributes_fallback]

end Resolved

theorem Context.ResolvedFrom.services_of_primary {u : Universe} {config : Config}
    {tables : List (Variant × SymbolTable)} {c : Context} (h : c.ResolvedFrom u config tables)
    {t : SymbolTable} (ht : c.tables.primary = some t) :
    ∃ s, c.dx? = some s ∧ t = .dx s ∧ s.services.OfProfile u c.isWinUi := by
  have hprimary : c.tables.get .primary = some t := ht
  obtain ⟨v, hv, hresolved⟩ := h.resolved_of_get hprimary
  obtain ⟨s, rfl, hservices⟩ := services_of_resolveTable hv hresolved
  refine ⟨s, ?_, rfl, hservices⟩
  rw [dx?, ht]
  rfl

/-- Whatever the universe, the variant and the profile: a table that is resolved
lists its optional fields, each once and with the universe's answer about the
type of its name. The primary table has the services of its profile only, be it
resolved for the primary framework or for the fallback, and in a context that
profile is the context's. -/
theorem tables_list_answers (u : Universe) :
    (∀ v isWinUi t, (resolveTable v u isWinUi).outcome = .ok t →
      t.ListsAnswers u ∧
        (v = .dx ∨ v = .none → ∃ s, t = .dx s ∧ s.services.OfProfile u isWinUi)) ∧
    (∀ isWinUi t, (resolveTable .none u isWinUi).outcome = .ok t ↔
      (resolveTable .dx u isWinUi).outcome = .ok t) ∧
    ∀ config c t, Context.Reachable u config c → c.tables.primary = some t →
      ∃ s, c.dx? = some s ∧ t = .dx s ∧ s.services.isWinUi = c.isWinUi := by
  refine ⟨?_, fun _ _ => resolveTable_fallback, ?_⟩
  · intro v isWinUi t h
    refine ⟨listsAnswers_of_resolveTable h, ?_⟩
    rintro (rfl | rfl)
    · exact services_of_resolveTable rfl h
    · exact services_of_resolveTable rfl h
  · intro config c t hreachable ht
    obtain ⟨tables, hresolved⟩ := Context.resolvedFrom_of_resolve hreachable.resolve
    obtain ⟨s, hdx, heq, hservices⟩ := hresolved.services_of_primary ht
    exact ⟨s, hdx, heq, hservices.group⟩

/-- No framework, and all optional types declared. The fallback table of the WinUI
profile does not show the services of the classic one; in a context the fallback
has the classic profile. -/
theorem fallback_tables_list_answers :
    let u := Universe.ofEntries ⟨7⟩ (requiredNames ++ optionalNames).zipIdx [] []
    (∃ s, (resolveTable .none u true).outcome = .ok (.dx s) ∧
      (resolveTable .dx u true).outcome = .ok (.dx s) ∧ (SymbolTable.dx s).ListsAnswers u ∧
      (u.find? WellKnown.supportParentViewModel).isSome ∧ s.services.parentViewModel? = none) ∧
    ∃ c s, Context.Reachable u {} c ∧ c.dx? = some s ∧ s.services.isWinUi = c.isWinUi := by
  intro u
  obtain ⟨htables, hfallback, hcontexts⟩ := tables_list_answers u
  refine ⟨?_, ?_⟩
  · obtain ⟨t, ht⟩ := (resolveTable_requires u .none true).ok_iff.mpr (by decide +kernel)
    obtain ⟨hlists, hservices⟩ := htables .none true t ht
    obtain ⟨s, rfl, hprofile⟩ := hservices (Or.inr rfl)
    exact ⟨s, ht, (hfallback true _).mp ht, hlists, by decide +kernel, hprofile.parentViewModel⟩
  · obtain ⟨c, hc⟩ := (resolve_requires u {}).ok_iff.mpr (by decide +kernel)
    have hreachable : Context.Reachable u {} c := .resolved hc
    obtain ⟨tables, hresolved⟩ := Context.resolvedFrom_of_resolve hc
    have hserved : (c.tables.get .primary).isSome := by
      rw [← hresolved.serves_eq, hresolved.detection]
      decide +kernel
    obtain ⟨t, ht⟩ := Option.isSome_iff_exists.mp hserved
    obtain ⟨s, hdx, -, hgroup⟩ := hcontexts {} c t hreachable ht
    exact ⟨c, s, hreachable, hdx, hgroup⟩

end MvvmSymbols
