import Mathlib.Data.List.Nodup
import MvvmSymbols.Pass
import MvvmSymbols.Proofs.Detection

/-!
What a finished resolution consists of. The loop over the detected variants
gives one table for each of them, in order, and slots and diagnostics follow
from these tables. No two detected variants use the same slot, so that no table
takes the place of another.
-/

namespace MvvmSymbols

/-- The tables in the slots of their variants, one after another. -/
def Slots.fillAll (s : Slots) (tables : List (Variant × SymbolTable)) : Slots :=
  tables.foldl (fun s p => s.fill p.2 p.1.slot) s

def Diagnostics.recordAll (d : Diagnostics) (tables : List (Variant × SymbolTable)) :
    Diagnostics :=
  tables.foldl (fun d p => d.recordTable p.1 p.2) d

theorem value_probeCapability (u : Universe) (v : Variant) (name : String) :
    (probeCapability u v name).value = u.find? name := by
  unfold probeCapability
  cases u.find? name <;> rfl

/-- What is resolved in the namespace of a variant is a table of that variant,
and of the primary framework for the fallback. -/
theorem variant_of_resolveTable {u : Universe} {v : Variant} {isWinUi : Bool} {t : SymbolTable}
    (h : (resolveTable v u isWinUi).outcome = .ok t) :
    t.variant = if v = .none then .dx else v := by
  obtain ⟨attributes, -, htable⟩ := Resolution.outcome_bind_eq_ok.mp h
  cases v <;> cases htable <;> rfl

/-- A loop that ends well has resolved the table of each variant, and has filled
the slots and counted with these tables. -/
theorem tables_of_resolveTables {u : Universe} {isWinUi : Bool} {vs : List Variant}
    {slots : Slots} {diagnostics : Diagnostics} {result : Slots × Diagnostics}
    (h : (Context.resolveTables u isWinUi vs slots diagnostics).outcome = .ok result) :
    ∃ tables : List (Variant × SymbolTable), tables.map (·.1) = vs ∧
      (∀ p ∈ tables, (resolveTable p.1 u isWinUi).outcome = .ok p.2) ∧
      result = (slots.fillAll tables, diagnostics.recordAll tables) := by
  induction vs generalizing slots diagnostics with
  | nil =>
      cases h
      exact ⟨[], rfl, by simp, rfl⟩
  | cons v vs ih =>
      obtain ⟨t, ht, hrest⟩ := Resolution.outcome_bind_eq_ok.mp h
      obtain ⟨tables, hvariants, htables, hresult⟩ := ih hrest
      refine ⟨(v, t) :: tables, by rw [List.map_cons, hvariants], ?_, hresult⟩
      exact List.forall_mem_cons.mpr ⟨ht, htables⟩

/-- The parts of a context that was resolved for a universe under a
configuration, with the table of each detected variant. -/
structure Context.ResolvedFrom (u : Universe) (config : Config)
    (tables : List (Variant × SymbolTable)) (c : Context) : Prop where
  compilation : c.compilation = u.compilation
  detection : c.detection = (detect u config.detection).value
  variants : tables.map (·.1) = c.detection.variants.toList
  resolved : ∀ p ∈ tables, (resolveTable p.1 u c.detection.isWinUi).outcome = .ok p.2
  slots : c.tables = Slots.fillAll {} tables
  common : (resolveCommon u).outcome = .ok c.common
  diagnostics : c.diagnostics = (Diagnostics.start c.detection u).recordAll tables

theorem Context.resolvedFrom_of_resolve {u : Universe} {config : Config} {c : Context}
    (h : (Context.resolve u config).outcome = .ok c) :
    ∃ tables, c.ResolvedFrom u config tables := by
  obtain ⟨detection, hdetection, h⟩ := Resolution.outcome_bind_eq_ok.mp h
  obtain ⟨⟨slots, diagnostics⟩, htables, h⟩ := Resolution.outcome_bind_eq_ok.mp h
  obtain ⟨common, hcommon, h⟩ := Resolution.outcome_bind_eq_ok.mp h
  cases hdetection
  cases h
  obtain ⟨tables, hvariants, hresolved, hresult⟩ := tables_of_resolveTables htables
  cases hresult
  exact ⟨tables, rfl, rfl, hvariants, hresolved, rfl, hcommon, rfl⟩

/-- A pass adds its candidates to a context and changes nothing in it. -/
theorem Pass.resolve_of_execute {u : Universe} {collector : Collector} {config : Config}
    {p : Pass} (h : (Pass.execute u collector config).outcome = .ok p) :
    (Context.resolve u config).outcome = .ok p.context := by
  obtain ⟨c, hc, h⟩ := Resolution.outcome_bind_eq_ok.mp h
  cases h
  exact hc

/-- The slot of a variant that is among others holds one of their tables. -/
theorem Slots.get_fillAll {s : Slots} {tables : List (Variant × SymbolTable)} {k : Slot}
    (hdistinct : (tables.map (·.1.slot)).Nodup) :
    (s.fillAll tables).get k =
      ((tables.find? fun p => p.1.slot = k).map (·.2)).or (s.get k) := by
  induction tables generalizing s with
  | nil => rfl
  | cons p tables ih =>
      obtain ⟨hp, htail⟩ := List.nodup_cons.mp hdistinct
      change ((s.fill p.2 p.1.slot).fillAll tables).get k = _
      rw [ih htail, Slots.get_fill, List.find?_cons]
      by_cases hk : p.1.slot = k
      · have hlater : (tables.find? fun q => q.1.slot = k) = none := by
          rw [List.find?_eq_none]
          intro q hq
          rw [← hk, decide_eq_true_iff]
          exact fun heq => hp (List.mem_map.mpr ⟨q, hq, heq⟩)
        simp [hk, hlater]
      · simp [hk]

namespace Context.ResolvedFrom

variable {u : Universe} {config : Config} {tables : List (Variant × SymbolTable)} {c : Context}

/-- Only the primary framework and the fallback share a slot, and these two are
never detected together. -/
theorem slots_distinct (h : c.ResolvedFrom u config tables) :
    (tables.map (·.1.slot)).Nodup := by
  have hvariants : (c.detection.variants.toList.map Variant.slot).Nodup := by
    rw [List.Nodup, List.pairwise_map]
    refine c.detection.variants.ascending.imp_of_mem ?_
    intro v w hv hw hlt hslot
    have halone : v = .none ∨ w = .none → c.detection.variants.toList = [.none] := by
      intro hnone
      rw [h.detection] at hv hw ⊢
      apply none_mem_detect_iff.mp
      rcases hnone with rfl | rfl
      · exact hv
      · exact hw
    by_cases hnone : v = .none ∨ w = .none
    · rw [halone hnone, List.mem_singleton] at hv hw
      rw [hv, hw] at hlt
      exact Nat.lt_irrefl _ hlt
    · cases v <;> cases w <;> simp_all [Variant.slot] <;> exact Nat.lt_irrefl _ hlt
  rwa [← h.variants, List.map_map] at hvariants

/-- A slot holds the table of the one detected variant that uses it. -/
theorem get_eq_some_iff (h : c.ResolvedFrom u config tables) {k : Slot} {t : SymbolTable} :
    c.tables.get k = some t ↔ ∃ v, (v, t) ∈ tables ∧ v.slot = k := by
  have hslot : c.tables.get k = (tables.find? fun p => p.1.slot = k).map (·.2) := by
    rw [h.slots, Slots.get_fillAll h.slots_distinct]
    cases k <;> exact Option.or_none
  rw [hslot]
  constructor
  · intro hfilled
    obtain ⟨p, hfind, rfl⟩ := Option.map_eq_some_iff.mp hfilled
    exact ⟨p.1, List.mem_of_find?_eq_some hfind, by simpa using List.find?_some hfind⟩
  · rintro ⟨v, hmem, hv⟩
    cases hfind : tables.find? fun p => p.1.slot = k with
    | none => exact absurd hv (by simpa using List.find?_eq_none.mp hfind (v, t) hmem)
    | some p =>
        have hp : p.1.slot = k := by simpa using List.find?_some hfind
        have heq : p = (v, t) := List.inj_on_of_nodup_map h.slots_distinct
          (List.mem_of_find?_eq_some hfind) hmem (hp.trans hv.symm)
        rw [heq]
        rfl

theorem lookup_eq_ok_iff (h : c.ResolvedFrom u config tables) {v : Variant} {t : SymbolTable} :
    c.lookup v = .ok t ↔ ∃ w, (w, t) ∈ tables ∧ w.slot = v.slot := by
  rw [← h.get_eq_some_iff]
  unfold lookup
  cases c.tables.get v.slot <;> simp

theorem isDetected_iff (h : c.ResolvedFrom u config tables) {v : Variant} :
    c.isDetected v = true ↔ ∃ t, (v, t) ∈ tables := by
  have hmem : c.isDetected v = true ↔ v ∈ tables.map (·.1) := by
    rw [h.variants]
    exact decide_eq_true_iff
  simpa using hmem

/-- The table of a detected variant is the one that its lookup gives. -/
theorem lookup_of_mem (h : c.ResolvedFrom u config tables) {p : Variant × SymbolTable}
    (hp : p ∈ tables) : c.lookup p.1 = .ok p.2 :=
  h.lookup_eq_ok_iff.mpr ⟨p.1, hp, rfl⟩

/-- A detected variant was resolved to the table that its lookup gives. -/
theorem lookup_of_detected (h : c.ResolvedFrom u config tables) {v : Variant}
    (hv : v ∈ (detect u config.detection).value.variants.toList) :
    ∃ t, c.lookup v = .ok t ∧ (resolveTable v u c.detection.isWinUi).outcome = .ok t := by
  rw [← h.detection, ← h.variants] at hv
  obtain ⟨p, hp, rfl⟩ := List.mem_map.mp hv
  exact ⟨p.2, h.lookup_of_mem hp, h.resolved p hp⟩

/-- The tables handed out are those that the resolution has gone through. -/
theorem detectedTables_eq (h : c.ResolvedFrom u config tables) :
    c.detectedTables = .ok tables := by
  unfold detectedTables
  rw [← h.variants, List.mapM_map]
  have hstep : ∀ ps : List (Variant × SymbolTable), ps ⊆ tables →
      (ps.mapM fun p => (c.lookup p.1).map (p.1, ·)) = .ok ps := by
    intro ps hps
    induction ps with
    | nil => rfl
    | cons p ps ih =>
        obtain ⟨hp, htail⟩ := List.cons_subset.mp hps
        rw [List.mapM_cons, h.lookup_of_mem hp, ih htail]
        rfl
  exact hstep tables (List.Subset.refl _)

end Context.ResolvedFrom

end MvvmSymbols
