import Mathlib.Order.Basic
import MvvmSymbols.Proofs.Requirements
import MvvmSymbols.Proofs.Resolved

/-!
Repairing a compilation that does not resolve: declare the type that was reported
as missing, and resolve again. A declared type that is required is not a marker,
so that the same is detected as before and the same is required. What was found is
still found. So each attempt gets further in the one list of what is required, and
the repair comes to an end, at the latest when the list does.
-/

namespace MvvmSymbols

/-- The names that a resolution requires, in the order in which it asks for them. -/
def Universe.demands (u : Universe) (config : Config) : List String :=
  (u.detected config).flatMap Variant.attributeNames ++ commonNames

/-- One more type is found, under some handle; about all others the answers are
the same. -/
structure Universe.Adds (u : Universe) (name : String) (w : Universe) : Prop where
  found : (w.find? name).isSome
  others : ∀ other, other ≠ name → w.find? other = u.find? other

/-- Attempts one after another: whenever one fails, the type that it has reported
is declared before the next. -/
structure Repairs (config : Config) (us : Nat → Universe) : Prop where
  plain : ∀ k, (us k).Plain
  repaired : ∀ k e, (Context.resolve (us k) config).outcome = .error e →
    (us k).Adds e.typeName (us (k + 1))

def Universe.adding (u : Universe) (name : String) (id : TypeIdentity) : Universe where
  compilation := u.compilation
  find? other := if other = name then some id else u.find? other
  nameOf? other := if other = id then some name else u.nameOf? other
  libraries := u.libraries

/-- Declares the type that is reported as missing, if one is. -/
def Universe.repair (config : Config) (handle : String → TypeIdentity) (u : Universe) : Universe :=
  match (Context.resolve u config).outcome with
  | .ok _ => u
  | .error e => u.adding e.typeName (handle e.typeName)

theorem map_typeName_requirements (vs : List Variant) :
    (requirements vs).map ResolveError.typeName =
      vs.flatMap Variant.attributeNames ++ commonNames := by
  have hvariant (v : Variant) :
      v.requirements.map ResolveError.typeName = v.attributeNames := rfl
  have hcommon : commonRequirements.map ResolveError.typeName = commonNames := rfl
  simp only [requirements, List.map_append, List.map_flatMap, hvariant, hcommon]

/-- Three attributes for each detected variant, and five common types. -/
theorem Universe.length_demands (u : Universe) (config : Config) :
    (u.demands config).length = 3 * (u.detected config).length + 5 := by
  have hthree (v : Variant) : v.attributeNames.length = 3 := rfl
  have hfive : commonNames.length = 5 := rfl
  simp only [demands, List.length_append, List.length_flatMap, hthree, hfive]
  simp [Nat.mul_comm]

/-- What is required depends on what is detected only. -/
theorem Universe.demands_congr {u w : Universe} {config : Config}
    (h : (detect w config.detection).value = (detect u config.detection).value) :
    w.demands config = u.demands config := by
  rw [demands, demands, detected, detected, h]

/-- The place of the first type that is missing is the number of those before it. -/
theorem idxOf_of_unmet {u : Universe} {before : List ResolveError} {e : ResolveError}
    (after : List ResolveError) (hmet : ∀ r ∈ before, (u.find? r.typeName).isSome)
    (hunmet : u.find? e.typeName = none) :
    ((before ++ e :: after).map ResolveError.typeName).idxOf e.typeName = before.length := by
  have hnew : e.typeName ∉ before.map ResolveError.typeName := by
    intro hmem
    obtain ⟨r, hr, hname⟩ := List.mem_map.mp hmem
    have hfound := hmet r hr
    rw [hname, hunmet] at hfound
    cases hfound
  rw [List.map_append, List.map_cons, List.idxOf_append_of_notMem hnew, List.idxOf_cons_self,
    List.length_map, Nat.add_zero]

theorem Universe.adds_adding (u : Universe) (name : String) (id : TypeIdentity) :
    u.Adds name (u.adding name id) := by
  constructor
  case found => simp [adding]
  case others =>
    intro other hother
    exact if_neg hother

namespace Universe.Adds

variable {u w : Universe} {name : String}

theorem contains_eq (h : u.Adds name w) (hu : u.Plain) (hw : w.Plain) {other : String}
    (hother : other ≠ name) : w.contains other = u.contains other := by
  rw [hw, hu, h.others other hother]

theorem found_of_found (h : u.Adds name w) {other : String} (hfound : (u.find? other).isSome) :
    (w.find? other).isSome := by
  by_cases hother : other = name
  · rw [hother]
    exact h.found
  · rw [h.others other hother]
    exact hfound

/-- A type that is required takes no part in detection. -/
theorem value_detect (h : u.Adds name w) (hu : u.Plain) (hw : w.Plain)
    (hname : name ∈ requiredNames) (c : DetectionConfig) :
    (detect w c).value = (detect u c).value := by
  have hcontent : name ∈ requiredNames ++ optionalNames := List.mem_append_left _ hname
  refine value_detectWith_congr ?_ ?_
  · intro p hp
    have hmarker : p.marker ∈ markerNames := List.mem_map_of_mem hp
    have hother : name ≠ p.marker :=
      marker_ne_of_content hmarker (List.mem_cons_of_mem _ hcontent)
    rw [Probe.hits, Probe.hits, h.contains_eq hu hw hother.symm]
  · apply h.contains_eq hu hw
    rintro rfl
    exact classic_not_content hcontent

/-- After the repair of a failure, another one comes later in the order. -/
theorem idxOf_lt {config : Config} {e e' : ResolveError} (h : u.Adds e.typeName w)
    (hdetected : w.detected config = u.detected config)
    (he : (Context.resolve u config).outcome = .error e)
    (he' : (Context.resolve w config).outcome = .error e') :
    (u.demands config).idxOf e.typeName < (u.demands config).idxOf e'.typeName := by
  have hfirst := ((resolve_requires u config).error_iff e).mp he
  have hnext := ((resolve_requires w config).error_iff e').mp he'
  obtain ⟨before, after, hsplit, hmet, hunmet⟩ := Universe.firstUnmet?_eq_some_iff.mp hfirst
  rw [hdetected, hsplit] at hnext
  -- What comes up to the repaired type is met now, so the failure is in the rest.
  have hmet' : ∀ r ∈ before ++ [e], (w.find? r.typeName).isSome := by
    intro r hr
    rcases List.mem_append.mp hr with hbefore | hlast
    · exact h.found_of_found (hmet r hbefore)
    · rw [List.mem_singleton.mp hlast]
      exact h.found
  have hrest : w.firstUnmet? after = some e' := by
    have hnone : w.firstUnmet? (before ++ [e]) = none :=
      Universe.firstUnmet?_eq_none_iff.mpr hmet'
    rw [List.append_cons, Universe.firstUnmet?_append, hnone, Option.none_or] at hnext
    exact hnext
  obtain ⟨between, rest, rfl, hbetween, hunmet'⟩ := Universe.firstUnmet?_eq_some_iff.mp hrest
  have hlater : ∀ r ∈ before ++ e :: between, (w.find? r.typeName).isSome := by
    intro r hr
    rw [List.append_cons, List.mem_append] at hr
    exact hr.elim (hmet' r) (hbetween r)
  have hplace := idxOf_of_unmet (between ++ e' :: rest) hmet hunmet
  have hplace' := idxOf_of_unmet rest hlater hunmet'
  rw [List.append_assoc, List.cons_append] at hplace'
  rw [Universe.demands, ← map_typeName_requirements, hsplit, hplace, hplace']
  simp

end Universe.Adds

section Step

variable {u w : Universe} {config : Config} {e : ResolveError}

theorem typeName_mem_demands (he : (Context.resolve u config).outcome = .error e) :
    e.typeName ∈ u.demands config := by
  have hrequired := ((resolve_requires u config).unmet_of_error he).1
  rw [Universe.demands, ← map_typeName_requirements]
  exact List.mem_map_of_mem hrequired

/-- One repair: the same is detected, and what is left to fail on comes later. -/
theorem resolve_of_repaired (hu : u.Plain) (hw : w.Plain)
    (he : (Context.resolve u config).outcome = .error e) (h : u.Adds e.typeName w) :
    (detect w config.detection).value = (detect u config.detection).value ∧
      ((∃ c, (Context.resolve w config).outcome = .ok c) ∨
        ∃ e', (Context.resolve w config).outcome = .error e' ∧
          e'.typeName ∈ u.demands config ∧
          (u.demands config).idxOf e.typeName < (u.demands config).idxOf e'.typeName) := by
  have hrequired := ((resolve_requires u config).unmet_of_error he).1
  have hdetection := h.value_detect hu hw (typeName_mem_required hrequired) config.detection
  have hdetected : w.detected config = u.detected config := by
    rw [Universe.detected, Universe.detected, hdetection]
  refine ⟨hdetection, ?_⟩
  cases houtcome : (Context.resolve w config).outcome with
  | ok c => exact Or.inl ⟨c, rfl⟩
  | error e' =>
      have hmem := typeName_mem_demands houtcome
      rw [Universe.demands_congr hdetection] at hmem
      exact Or.inr ⟨e', rfl, hmem, h.idxOf_lt hdetected he houtcome⟩

end Step

namespace Repairs

variable {config : Config} {us : Nat → Universe}

/-- The repair can be carried out, whatever handles the new types get. -/
theorem iterate_repair {u : Universe} (hu : u.Plain) (config : Config)
    (handle : String → TypeIdentity) :
    Repairs config fun k => (Universe.repair config handle)^[k] u := by
  constructor
  case plain =>
    intro k
    induction k with
    | zero => exact hu
    | succ k ih =>
        rw [Function.iterate_succ_apply', Universe.repair]
        split
        · exact ih
        · exact fun _ => rfl
  case repaired =>
    intro k e he
    rw [Function.iterate_succ_apply', Universe.repair, he]
    exact Universe.adds_adding _ _ _

/-- What is known of an attempt before which all attempts have failed: the same is
detected as at first, and if it fails too, it fails further on than all of them. -/
structure Progress (config : Config) (us : Nat → Universe) (k : Nat) : Prop where
  detection : (detect (us k) config.detection).value = (detect (us 0) config.detection).value
  far : ∀ e, (Context.resolve (us k) config).outcome = .error e →
    k ≤ ((us 0).demands config).idxOf e.typeName
  later : ∀ j < k, ∀ e e', (Context.resolve (us j) config).outcome = .error e →
    (Context.resolve (us k) config).outcome = .error e' →
    ((us 0).demands config).idxOf e.typeName < ((us 0).demands config).idxOf e'.typeName

/-- After one more repair, a failure lies further on than all failures before. -/
theorem progress_succ (h : Repairs config us) {k : Nat} (hk : Progress config us k)
    {e : ResolveError} (he : (Context.resolve (us k) config).outcome = .error e) :
    Progress config us (k + 1) := by
  obtain ⟨hdetection, hnext⟩ :=
    resolve_of_repaired (h.plain k) (h.plain (k + 1)) he (h.repaired k e he)
  have hdemands : (us k).demands config = (us 0).demands config :=
    Universe.demands_congr hk.detection
  have hahead : ∀ e', (Context.resolve (us (k + 1)) config).outcome = .error e' →
      ((us 0).demands config).idxOf e.typeName < ((us 0).demands config).idxOf e'.typeName := by
    intro e' he'
    rcases hnext with ⟨c, hc⟩ | ⟨e'', he'', -, hlt⟩
    · rw [he'] at hc
      cases hc
    · rw [he'] at he''
      cases he''
      rwa [hdemands] at hlt
  constructor
  case detection => exact hdetection.trans hk.detection
  case far =>
    intro e' he'
    have hreached := hk.far e he
    have hlt := hahead e' he'
    omega
  case later =>
    intro j hj e₁ e' he₁ he'
    rcases Nat.lt_succ_iff_lt_or_eq.mp hj with hbefore | rfl
    · exact (hk.later j hbefore e₁ e he₁ he).trans (hahead e' he')
    · rw [he₁] at he
      cases he
      exact hahead e' he'

/-- By induction on the attempts, as long as all of them fail. -/
theorem progress (h : Repairs config us) (k : Nat)
    (hfailed : ∀ j < k, ∃ e, (Context.resolve (us j) config).outcome = .error e) :
    Progress config us k := by
  induction k with
  | zero => exact ⟨rfl, fun _ _ => Nat.zero_le _, fun j hj => absurd hj (Nat.not_lt_zero j)⟩
  | succ k ih =>
      have hk := ih fun j hj => hfailed j (by omega)
      obtain ⟨e, he⟩ := hfailed k (by omega)
      exact h.progress_succ hk he

/-- There are not more failures than there are required types. -/
theorem exists_ok (h : Repairs config us) :
    ∃ k ≤ ((us 0).demands config).length,
      ∃ c, (Context.resolve (us k) config).outcome = .ok c := by
  by_contra hnone
  have hfailed : ∀ k ≤ ((us 0).demands config).length,
      ∃ e, (Context.resolve (us k) config).outcome = .error e := by
    intro k hk
    exact Resolution.not_ok_iff.mp fun hok => hnone ⟨k, hk, hok⟩
  obtain ⟨e, he⟩ := hfailed _ le_rfl
  have hprogress := h.progress _ fun j hj => hfailed j hj.le
  have hplace : ((us 0).demands config).idxOf e.typeName < ((us 0).demands config).length := by
    apply List.idxOf_lt_length_of_mem
    rw [← Universe.demands_congr hprogress.detection]
    exact typeName_mem_demands he
  have hfar := hprogress.far e he
  omega

/-- Up to the first success there are only failures. -/
theorem exists_first_ok (h : Repairs config us) :
    ∃ k ≤ ((us 0).demands config).length,
      (∃ c, (Context.resolve (us k) config).outcome = .ok c) ∧
        ∀ j < k, ∃ e, (Context.resolve (us j) config).outcome = .error e := by
  classical
  obtain ⟨k, hk, hok⟩ := h.exists_ok
  have hexists : ∃ k, ∃ c, (Context.resolve (us k) config).outcome = .ok c := ⟨k, hok⟩
  refine ⟨Nat.find hexists, (Nat.find_min' hexists hok).trans hk, Nat.find_spec hexists, ?_⟩
  intro j hj
  exact Resolution.not_ok_iff.mp (Nat.find_min hexists hj)

end Repairs

/-- To declare what is reported as missing, again and again, leads to a resolution
that succeeds. A type that is reported is indeed missing. Once it is declared, under
whatever handle, the same is detected as before, and a failure that is left comes
strictly later in the order of what is required. So there are at most as many
failures as required types, no type is reported twice, and the context that comes
out at the end has the detection of the compilation at the beginning. All this
can be done with any handles for the new types. -/
theorem repairs_converge (u : Universe) (config : Config) (hu : u.Plain) :
    (∀ e, (Context.resolve u config).outcome = .error e →
      u.find? e.typeName = none ∧
      ∀ w : Universe, w.Plain → u.Adds e.typeName w →
        (detect w config.detection).value = (detect u config.detection).value ∧
        ((∃ c, (Context.resolve w config).outcome = .ok c) ∨
          ∃ e', (Context.resolve w config).outcome = .error e' ∧
            e'.typeName ∈ u.demands config ∧
            (u.demands config).idxOf e.typeName < (u.demands config).idxOf e'.typeName)) ∧
    (∀ us : Nat → Universe, us 0 = u → Repairs config us →
      ∃ k ≤ 3 * (u.detected config).length + 5,
        (∃ c, (Context.resolve (us k) config).outcome = .ok c ∧
          c.detection = (detect u config.detection).value) ∧
        (∀ j < k, ∃ e, (Context.resolve (us j) config).outcome = .error e) ∧
        ∀ i j e e', i < j → j < k → (Context.resolve (us i) config).outcome = .error e →
          (Context.resolve (us j) config).outcome = .error e' → e.typeName ≠ e'.typeName) ∧
    ∀ handle, Repairs config fun k => (Universe.repair config handle)^[k] u := by
  refine ⟨?_, ?_, Repairs.iterate_repair hu config⟩
  · intro e he
    refine ⟨((resolve_requires u config).unmet_of_error he).2, ?_⟩
    intro w hw h
    exact resolve_of_repaired hu hw he h
  · rintro us rfl h
    obtain ⟨k, hk, ⟨c, hc⟩, hfailed⟩ := h.exists_first_ok
    obtain ⟨tables, hresolved⟩ := Context.resolvedFrom_of_resolve hc
    rw [Universe.length_demands] at hk
    refine ⟨k, hk, ⟨c, hc, hresolved.detection.trans (h.progress k hfailed).detection⟩,
      hfailed, ?_⟩
    intro i j e e' hij hj he he' hsame
    have hlt := (h.progress j fun m hm => hfailed m (hm.trans hj)).later i hij e e' he he'
    rw [hsame] at hlt
    exact Nat.lt_irrefl _ hlt

/-- A compilation of which little more than a marker is known, repaired with one
handle for all types: it takes seven repairs, where the bound is eight. -/
theorem prism_repairs_converge :
    let u := Universe.ofEntries ⟨7⟩ [(WellKnown.prismMarker, 0), (WellKnown.task, 1)] [] []
    let us k := (Universe.repair {} fun _ => ⟨⟨9⟩, 5⟩)^[k] u
    u.Plain ∧ Repairs {} us ∧ 3 * (u.detected {}).length + 5 = 8 ∧
      (∃ k ≤ 8, (∃ c, (Context.resolve (us k) {}).outcome = .ok c ∧
        c.detection = (detect u {}).value) ∧
        ∀ j < k, ∃ e, (Context.resolve (us j) {}).outcome = .error e) ∧
      (∃ e, (Context.resolve (us 6) {}).outcome = .error e) ∧
      ∃ c, (Context.resolve (us 7) {}).outcome = .ok c := by
  intro u us
  have hplain : u.Plain := fun _ => rfl
  obtain ⟨-, hconverges, hrepairs⟩ := repairs_converge u {} hplain
  have hus : Repairs {} us := hrepairs _
  obtain ⟨k, hk, hok, hfailed, -⟩ := hconverges us rfl hus
  have hbound : 3 * (u.detected {}).length + 5 = 8 := by decide +kernel
  refine ⟨hplain, hus, hbound, ⟨k, hbound ▸ hk, hok, hfailed⟩, ?_, ?_⟩
  · refine (resolve_requires (us 6) {}).error_of_unmet
      (e := .missingCommonType WellKnown.attributeUsage) ?_ ?_
    all_goals decide +kernel
  · exact (resolve_requires (us 7) {}).ok_iff.mpr (by decide +kernel)

end MvvmSymbols
