import MvvmSymbols.Proofs.Queries
import MvvmSymbols.Proofs.Resolved

/-!
The places of a context in which a handle can stand: three attributes of each
table, the optional capabilities, and the common types. Each place has one
well-known name, and no two places have the same. What stands in a place of a
resolved context is the answer of its universe about the name of that place,
and a place is empty only if its table was not resolved, its profile is not in
force, or the universe has no such type.
-/

namespace MvvmSymbols

inductive Attributes.Field where
  | viewModel
  | property
  | command
deriving DecidableEq

namespace Attributes

def get (a : Attributes) : Field → TypeIdentity
  | .viewModel => a.viewModel
  | .property => a.property
  | .command => a.command

def Field.relativeName : Field → String
  | .viewModel => WellKnown.viewModelAttribute
  | .property => WellKnown.propertyAttribute
  | .command => WellKnown.commandAttribute

end Attributes

inductive CommonTable.Field where
  | propertyChanged
  | propertyChanging
  | task
  | boolean
  | attributeUsage
deriving DecidableEq

namespace CommonTable

def get (t : CommonTable) : Field → TypeIdentity
  | .propertyChanged => t.propertyChanged
  | .propertyChanging => t.propertyChanging
  | .task => t.task
  | .boolean => t.boolean
  | .attributeUsage => t.attributeUsage

def Field.typeName : Field → String
  | .propertyChanged => WellKnown.propertyChanged
  | .propertyChanging => WellKnown.propertyChanging
  | .task => WellKnown.task
  | .boolean => WellKnown.boolean
  | .attributeUsage => WellKnown.attributeUsage

end CommonTable

inductive OptionalField where
  | dataErrorInfo
  | services
  | parentViewModel
  | uiServices
  | cancellationToken
  | activeAware
  | cleanup
  | wpfRelayCommand
deriving DecidableEq

namespace OptionalField

def typeName : OptionalField → String
  | .dataErrorInfo => WellKnown.dataErrorInfo
  | .services => WellKnown.supportServices
  | .parentViewModel => WellKnown.supportParentViewModel
  | .uiServices => WellKnown.supportUiServices
  | .cancellationToken => WellKnown.cancellationToken
  | .activeAware => WellKnown.activeAware
  | .cleanup => WellKnown.cleanup
  | .wpfRelayCommand => WellKnown.wpfRelayCommand

/-- Where the table with this field stands. -/
def slot : OptionalField → Slot
  | .dataErrorInfo | .services | .parentViewModel | .uiServices | .cancellationToken => .primary
  | .activeAware => .prism
  | .cleanup | .wpfRelayCommand => .mvvmLight

/-- Each profile of the primary framework has services of its own. -/
def isOffered (isWinUi : Bool) : OptionalField → Bool
  | .services | .parentViewModel => !isWinUi
  | .uiServices | .cancellationToken => isWinUi
  | .dataErrorInfo | .activeAware | .cleanup | .wpfRelayCommand => true

end OptionalField

def Services.get? : Services → OptionalField → Option TypeIdentity
  | .classic services _, .services => services
  | .classic _ parentViewModel, .parentViewModel => parentViewModel
  | .winUi uiServices _, .uiServices => uiServices
  | .winUi _ cancellationToken, .cancellationToken => cancellationToken
  | _, _ => none

def SymbolTable.get? : SymbolTable → OptionalField → Option TypeIdentity
  | .dx t, .dataErrorInfo => t.dataErrorInfo
  | .dx t, field => t.services.get? field
  | .prism t, .activeAware => t.activeAware
  | .mvvmLight t, .cleanup => t.cleanup
  | .mvvmLight t, .wpfRelayCommand => t.wpfRelayCommand
  | _, _ => none

/-- The framework that a slot is named for. -/
def Slot.variant : Slot → Variant
  | .primary => .dx
  | .prism => .prism
  | .mvvmLight => .mvvmLight

inductive Place where
  | common (field : CommonTable.Field)
  | required (slot : Slot) (field : Attributes.Field)
  | optional (field : OptionalField)
deriving DecidableEq

namespace Place

def name : Place → String
  | .common field => field.typeName
  | .required slot field => slot.variant.attributeName field.relativeName
  | .optional field => field.typeName

def all : List Place :=
  ([.primary, .prism, .mvvmLight].flatMap fun slot =>
      [.viewModel, .property, .command].map (required slot)) ++
    [.propertyChanged, .propertyChanging, .task, .boolean, .attributeUsage].map common ++
    [.dataErrorInfo, .services, .parentViewModel, .uiServices, .cancellationToken, .activeAware,
      .cleanup, .wpfRelayCommand].map optional

theorem mem_all (place : Place) : place ∈ all := by
  rcases place with (_ | _) | ⟨_ | _, _ | _⟩ | (_ | _) <;> decide

theorem map_name_all : all.map name = requiredNames ++ optionalNames := rfl

theorem name_mem (place : Place) : place.name ∈ requiredNames ++ optionalNames := by
  rw [← map_name_all]
  exact List.mem_map_of_mem (mem_all place)

/-- No two places have one name, so a name tells where its answer stands. -/
theorem name_injective {p q : Place} (h : p.name = q.name) : p = q := by
  have hnodup : (all.map name).Nodup := by
    rw [map_name_all]
    exact (List.nodup_cons.mp (List.Nodup.of_append_right queries_nodup)).2
  exact List.inj_on_of_nodup_map hnodup (mem_all p) (mem_all q) h

end Place

section Answers

variable {u : Universe} {v : Variant} {isWinUi : Bool}

/-- Each attribute is the answer about its own name. -/
theorem answers_of_resolveAttributes {a : Attributes}
    (h : (resolveAttributes u v).outcome = .ok a) (field : Attributes.Field) :
    u.find? (v.attributeName field.relativeName) = some (a.get field) := by
  obtain ⟨viewModel, hviewModel, h⟩ := Resolution.outcome_bind_eq_ok.mp h
  obtain ⟨property, hproperty, h⟩ := Resolution.outcome_bind_eq_ok.mp h
  obtain ⟨command, hcommand, h⟩ := Resolution.outcome_bind_eq_ok.mp h
  cases h
  cases field with
  | viewModel => exact outcome_require_eq_ok.mp hviewModel
  | property => exact outcome_require_eq_ok.mp hproperty
  | command => exact outcome_require_eq_ok.mp hcommand

theorem answers_of_resolveCommon {t : CommonTable} (h : (resolveCommon u).outcome = .ok t)
    (field : CommonTable.Field) : u.find? field.typeName = some (t.get field) := by
  obtain ⟨propertyChanged, hchanged, h⟩ := Resolution.outcome_bind_eq_ok.mp h
  obtain ⟨propertyChanging, hchanging, h⟩ := Resolution.outcome_bind_eq_ok.mp h
  obtain ⟨task, htask, h⟩ := Resolution.outcome_bind_eq_ok.mp h
  obtain ⟨boolean, hboolean, h⟩ := Resolution.outcome_bind_eq_ok.mp h
  obtain ⟨attributeUsage, husage, h⟩ := Resolution.outcome_bind_eq_ok.mp h
  cases h
  cases field with
  | propertyChanged => exact outcome_require_eq_ok.mp hchanged
  | propertyChanging => exact outcome_require_eq_ok.mp hchanging
  | task => exact outcome_require_eq_ok.mp htask
  | boolean => exact outcome_require_eq_ok.mp hboolean
  | attributeUsage => exact outcome_require_eq_ok.mp husage

/-- Of the two groups of services, the one of the profile in force is read. -/
theorem get?_probeDx (u : Universe) (isWinUi : Bool) (a : Attributes) (field : OptionalField) :
    (SymbolTable.dx (probeDx u isWinUi a).value).get? field =
      if field.slot = .primary ∧ field.isOffered isWinUi then u.find? field.typeName else none := by
  cases isWinUi <;> cases field <;>
    simp [probeDx, probeServices, value_probeCapability, SymbolTable.get?, Services.get?,
      OptionalField.slot, OptionalField.isOffered, OptionalField.typeName]

theorem get?_probePrism (u : Universe) (isWinUi : Bool) (a : Attributes) (field : OptionalField) :
    (SymbolTable.prism (probePrism u a).value).get? field =
      if field.slot = .prism ∧ field.isOffered isWinUi then u.find? field.typeName else none := by
  cases field <;>
    simp [probePrism, value_probeCapability, SymbolTable.get?, OptionalField.slot,
      OptionalField.isOffered, OptionalField.typeName]

theorem get?_probeMvvmLight (u : Universe) (isWinUi : Bool) (a : Attributes)
    (field : OptionalField) :
    (SymbolTable.mvvmLight (probeMvvmLight u a).value).get? field =
      if field.slot = .mvvmLight ∧ field.isOffered isWinUi then u.find? field.typeName
      else none := by
  cases field <;>
    simp [probeMvvmLight, value_probeCapability, SymbolTable.get?, OptionalField.slot,
      OptionalField.isOffered, OptionalField.typeName]

/-- A table holds its variant's attributes, and the answers about the optional
types that it offers. -/
theorem answers_of_resolveTable {t : SymbolTable}
    (h : (resolveTable v u isWinUi).outcome = .ok t) :
    (resolveAttributes u v).outcome = .ok t.attributes ∧
      ∀ field, t.get? field =
        if field.slot = v.slot ∧ field.isOffered isWinUi then u.find? field.typeName else none := by
  obtain ⟨a, ha, htable⟩ := Resolution.outcome_bind_eq_ok.mp h
  cases v with
  | dx | none =>
      cases htable
      exact ⟨ha, get?_probeDx u isWinUi a⟩
  | prism =>
      cases htable
      exact ⟨ha, get?_probePrism u isWinUi a⟩
  | mvvmLight =>
      cases htable
      exact ⟨ha, get?_probeMvvmLight u isWinUi a⟩

theorem attributeName_variant_slot (v : Variant) (relative : String) :
    v.slot.variant.attributeName relative = v.attributeName relative := by
  cases v <;> rfl

end Answers

/-- A slot is served if one of its variants is detected. -/
def Detection.serves (d : Detection) (slot : Slot) : Bool :=
  d.variants.toList.any (·.slot = slot)

/-- Whether a resolution asks for what stands in a place. -/
def Place.isRead (d : Detection) : Place → Bool
  | .common _ => true
  | .required slot _ => d.serves slot
  | .optional field => d.serves field.slot && field.isOffered d.isWinUi

namespace Context

/-- What stands in a place. -/
def get? (c : Context) : Place → Option TypeIdentity
  | .common field => some (c.common.get field)
  | .required slot field => (c.tables.get slot).map (·.attributes.get field)
  | .optional field => (c.tables.get field.slot).bind (·.get? field)

namespace ResolvedFrom

variable {u : Universe} {config : Config} {tables : List (Variant × SymbolTable)} {c : Context}

/-- The slots that are filled are those of the detected variants. -/
theorem serves_eq (h : c.ResolvedFrom u config tables) (slot : Slot) :
    c.detection.serves slot = (c.tables.get slot).isSome := by
  rw [Bool.eq_iff_iff, Option.isSome_iff_exists, Detection.serves, ← h.variants, List.any_eq_true]
  simp only [h.get_eq_some_iff, decide_eq_true_iff]
  constructor
  · rintro ⟨v, hv, hslot⟩
    obtain ⟨p, hp, rfl⟩ := List.mem_map.mp hv
    exact ⟨p.2, p.1, hp, hslot⟩
  · rintro ⟨t, v, hmem, hslot⟩
    exact ⟨v, List.mem_map_of_mem hmem, hslot⟩

/-- A table in a slot is one that a detected variant of the slot was resolved to. -/
theorem resolved_of_get (h : c.ResolvedFrom u config tables) {slot : Slot} {t : SymbolTable}
    (ht : c.tables.get slot = some t) :
    ∃ v, v.slot = slot ∧ (resolveTable v u c.detection.isWinUi).outcome = .ok t := by
  obtain ⟨v, hmem, hslot⟩ := h.get_eq_some_iff.mp ht
  exact ⟨v, hslot, h.resolved (v, t) hmem⟩

/-- A context is the record of the universe's answers: in each place that is read
stands the answer about its name, and the other places are empty. -/
theorem get?_eq (h : c.ResolvedFrom u config tables) (place : Place) :
    c.get? place = if place.isRead c.detection then u.find? place.name else none := by
  cases place with
  | common field => exact (answers_of_resolveCommon h.common field).symm
  | required slot field =>
      simp only [get?, Place.isRead, h.serves_eq]
      cases ht : c.tables.get slot with
      | none => rfl
      | some t =>
          obtain ⟨v, rfl, hresolved⟩ := h.resolved_of_get ht
          have hanswer := answers_of_resolveAttributes (answers_of_resolveTable hresolved).1 field
          rw [← attributeName_variant_slot] at hanswer
          exact hanswer.symm
  | optional field =>
      simp only [get?, Place.isRead, h.serves_eq]
      cases ht : c.tables.get field.slot with
      | none => rfl
      | some t =>
          obtain ⟨v, hslot, hresolved⟩ := h.resolved_of_get ht
          rw [Option.bind_some, (answers_of_resolveTable hresolved).2 field]
          simp [hslot, Place.name]

/-- What stands in a place is what the universe finds under its name. -/
theorem find?_of_get? (h : c.ResolvedFrom u config tables) {place : Place} {id : TypeIdentity}
    (hid : c.get? place = some id) : u.find? place.name = some id := by
  rw [h.get?_eq] at hid
  split at hid
  · exact hid
  · cases hid

end ResolvedFrom

end Context

end MvvmSymbols
