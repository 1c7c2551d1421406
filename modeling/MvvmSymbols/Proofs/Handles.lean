import MvvmSymbols.Proofs.Interning
import MvvmSymbols.Proofs.Lookup
import MvvmSymbols.Proofs.Places

/-!
The handles in a context of a frozen universe. Names and handles of a frozen
universe determine each other, and no two places of a context have the same
name. So the handle in a place has the name of that place, and no handle stands
in two places, be they of one table, of two, or of the common one.
-/

namespace MvvmSymbols

namespace Context

/-- What the generation stage relies on when it takes handles out of a context. -/
structure HoldsNamed (u : Universe) (c : Context) : Prop where
  compilation : ∀ place id, c.get? place = some id → id.compilation = c.compilation
  named : ∀ place id, c.get? place = some id → u.nameOf? id = some place.name
  /-- Attributes stand in the namespace of the table's own framework. -/
  namespaces : ∀ slot t, c.tables.get slot = some t → t.variant = slot.variant
  distinct : ∀ p q id, c.get? p = some id → c.get? q = some id → p = q

theorem ResolvedFrom.variant_of_get {u : Universe} {config : Config}
    {tables : List (Variant × SymbolTable)} {c : Context} (h : c.ResolvedFrom u config tables)
    {slot : Slot} {t : SymbolTable} (ht : c.tables.get slot = some t) :
    t.variant = slot.variant := by
  obtain ⟨v, rfl, hresolved⟩ := h.resolved_of_get ht
  rw [variant_of_resolveTable hresolved]
  cases v <;> rfl

end Context

/-- Whatever calls a builder has had, the handles in every context of the frozen
universe belong to it, have the names of their places, and are all different. -/
theorem frozen_context_holds_named {calls : List BuilderCall} {n : Numbering} {config : Config}
    {c : Context}
    (h : c.Reachable ((Declarations.ofCalls calls).freeze n).1.toUniverse config) :
    c.HoldsNamed ((Declarations.ofCalls calls).freeze n).1.toUniverse := by
  obtain ⟨tables, hresolved⟩ := Context.resolvedFrom_of_resolve h.resolve
  have hdense := Snapshot.numbersDensely_freeze calls n
  constructor
  case compilation =>
    intro place id hid
    rw [hresolved.compilation]
    exact Snapshot.compilation_of_find? (hresolved.find?_of_get? hid)
  case named =>
    intro place id hid
    exact hdense.nameOf?_of_find? _ _ (hresolved.find?_of_get? hid)
  case namespaces => exact fun _ _ => hresolved.variant_of_get
  case distinct =>
    intro p q id hp hq
    have hpname := hdense.nameOf?_of_find? _ _ (hresolved.find?_of_get? hp)
    have hqname := hdense.nameOf?_of_find? _ _ (hresolved.find?_of_get? hq)
    rw [hpname] at hqname
    exact Place.name_injective (Option.some.inj hqname)

/-- All frameworks at once, in the WinUI profile, after repeated declarations and
one that nothing asks about. -/
theorem all_frameworks_context_holds_named :
    let calls : List BuilderCall := [.type WellKnown.task, .library "Core",
      .types (markerNames ++ requiredNames), .type "App.Main", .types optionalNames]
    let u := ((Declarations.ofCalls calls).freeze {}).1.toUniverse
    ∃ c : Context, c.Reachable u {} ∧ c.HoldsNamed u := by
  intro calls u
  obtain ⟨c, hc⟩ := (resolve_requires u {}).ok_iff.mpr (by decide +kernel)
  exact ⟨c, .resolved hc, frozen_context_holds_named (.resolved hc)⟩

end MvvmSymbols
