import Mathlib.Data.List.Find
import MvvmSymbols.Proofs.Queries

/-!
What a resolution requires of a compilation, and how it fails: it asks for its
required types in one fixed order, and the first one that is missing is the one
that it reports. The order is that of the detected variants, and the types that
are common to all of them come last.
-/

namespace MvvmSymbols

/-- The attributes of a variant, each as the failure that its absence is. -/
def Variant.requirements (v : Variant) : List ResolveError :=
  v.attributeNames.map (.missingRequiredType v)

def commonRequirements : List ResolveError := commonNames.map .missingCommonType

/-- Everything that is required where these variants are detected, in order. -/
def requirements (detected : List Variant) : List ResolveError :=
  detected.flatMap Variant.requirements ++ commonRequirements

def Universe.firstUnmet? (u : Universe) (es : List ResolveError) : Option ResolveError :=
  es.find? fun e => (u.find? e.typeName).isNone

theorem Universe.firstUnmet?_append (u : Universe) (es fs : List ResolveError) :
    u.firstUnmet? (es ++ fs) = (u.firstUnmet? es).or (u.firstUnmet? fs) :=
  List.find?_append

theorem Universe.firstUnmet?_eq_none_iff {u : Universe} {es : List ResolveError} :
    u.firstUnmet? es = none ↔ ∀ e ∈ es, (u.find? e.typeName).isSome := by
  simp [Universe.firstUnmet?, Option.isSome_iff_ne_none]

/-- The first unmet requirement is one that is unmet, with none before it. -/
theorem Universe.firstUnmet?_eq_some_iff {u : Universe} {es : List ResolveError}
    {e : ResolveError} :
    u.firstUnmet? es = some e ↔
      ∃ before after, es = before ++ e :: after ∧
        (∀ r ∈ before, (u.find? r.typeName).isSome) ∧ u.find? e.typeName = none := by
  unfold Universe.firstUnmet?
  rw [List.find?_eq_some_iff_append]
  constructor
  · rintro ⟨hunmet, before, after, hsplit, hmet⟩
    exact ⟨before, after, hsplit, by simpa using hmet, by simpa using hunmet⟩
  · rintro ⟨before, after, hsplit, hmet, hunmet⟩
    exact ⟨by simp [hunmet], before, after, hsplit, by simpa using hmet⟩

theorem Universe.firstUnmet?_congr {u w : Universe} {es : List ResolveError}
    (h : ∀ e ∈ es, (w.find? e.typeName).isSome = (u.find? e.typeName).isSome) :
    w.firstUnmet? es = u.firstUnmet? es := by
  refine List.find?_congr ?_
  intro e he
  rw [← Option.not_isSome, ← Option.not_isSome, h e he]

/-- A requirement is an attribute of a detected variant, blamed on that variant,
or a common type. -/
theorem mem_requirements_iff {detected : List Variant} {e : ResolveError} :
    e ∈ requirements detected ↔
      (∃ v ∈ detected, ∃ name ∈ v.attributeNames, e = .missingRequiredType v name) ∨
        ∃ name ∈ commonNames, e = .missingCommonType name := by
  simp only [requirements, Variant.requirements, commonRequirements, List.mem_append,
    List.mem_flatMap, List.mem_map, eq_comm]

theorem missingRequiredType_mem_requirements {detected : List Variant} {v : Variant}
    {name : String} :
    .missingRequiredType v name ∈ requirements detected ↔
      v ∈ detected ∧ name ∈ v.attributeNames := by
  rw [mem_requirements_iff]
  constructor
  · rintro (⟨v, hv, name, hname, heq⟩ | ⟨_, _, heq⟩)
    · cases heq
      exact ⟨hv, hname⟩
    · cases heq
  · rintro ⟨hv, hname⟩
    exact Or.inl ⟨v, hv, name, hname, rfl⟩

theorem missingCommonType_mem_requirements {detected : List Variant} {name : String} :
    .missingCommonType name ∈ requirements detected ↔ name ∈ commonNames := by
  rw [mem_requirements_iff]
  constructor
  · rintro (⟨_, _, _, _, heq⟩ | ⟨name, hname, heq⟩)
    · cases heq
    · cases heq
      exact hname
  · intro hname
    exact Or.inr ⟨name, hname, rfl⟩

theorem typeName_mem_required {detected : List Variant} {e : ResolveError}
    (h : e ∈ requirements detected) : e.typeName ∈ requiredNames := by
  rcases mem_requirements_iff.mp h with ⟨v, -, name, hname, rfl⟩ | ⟨name, hname, rfl⟩
  · exact attributeNames_subset_required v hname
  · exact commonNames_subset_required hname

namespace Resolution

variable {α β : Type} {u : Universe} {x : Resolution α} {es fs : List ResolveError}

/-- A computation asks for the types of a list, in order: it ends with the first
of them that is missing, and with a value if none is. -/
structure Requires (x : Resolution α) (u : Universe) (es : List ResolveError) : Prop where
  fails : ∀ e, u.firstUnmet? es = some e → x.outcome = .error e
  succeeds : u.firstUnmet? es = none → ∃ a, x.outcome = .ok a

theorem requires_require (u : Universe) (e : ResolveError) :
    (require (u.find? e.typeName) e).Requires u [e] := by
  cases hfound : u.find? e.typeName with
  | none =>
      refine ⟨?_, ?_⟩
      · intro e' hfirst
        have heq : e = e' := by simpa [Universe.firstUnmet?, hfound] using hfirst
        rw [← heq]
        rfl
      · simp [Universe.firstUnmet?, hfound]
  | some id =>
      refine ⟨?_, ?_⟩
      · simp [Universe.firstUnmet?, hfound]
      · exact fun _ => ⟨id, rfl⟩

theorem requires_of_ok {a : α} (h : x.outcome = .ok a) : x.Requires u [] :=
  ⟨by simp [Universe.firstUnmet?], fun _ => ⟨a, h⟩⟩

/-- What comes after a computation is required after what the computation
requires, and only if that is there. -/
theorem Requires.bind {f : α → Resolution β} (hx : x.Requires u es)
    (hf : ∀ a, x.outcome = .ok a → (f a).Requires u fs) :
    (x >>= f).Requires u (es ++ fs) := by
  have hbind := outcome_bind x f
  refine ⟨?_, ?_⟩
  · intro e hfirst
    rw [Universe.firstUnmet?_append, Option.or_eq_some_iff] at hfirst
    rcases hfirst with hfirst | ⟨hmet, hfirst⟩
    · rw [hbind, hx.fails e hfirst]
      rfl
    · obtain ⟨a, ha⟩ := hx.succeeds hmet
      rw [hbind, ha]
      exact (hf a ha).fails e hfirst
  · intro hmet
    rw [Universe.firstUnmet?_append, Option.or_eq_none_iff] at hmet
    obtain ⟨a, ha⟩ := hx.succeeds hmet.1
    rw [hbind, ha]
    exact (hf a ha).succeeds hmet.2

/-- A last step that cannot fail requires nothing more. -/
theorem Requires.bind_ok {f : α → Resolution β} (hx : x.Requires u es)
    (hf : ∀ a, ∃ b, (f a).outcome = .ok b) : (x >>= f).Requires u es := by
  rw [← List.append_nil es]
  refine hx.bind ?_
  intro a _
  obtain ⟨b, hb⟩ := hf a
  exact requires_of_ok hb

/-- A computation succeeds iff all it requires is there. -/
theorem Requires.ok_iff (hx : x.Requires u es) :
    (∃ a, x.outcome = .ok a) ↔ ∀ e ∈ es, (u.find? e.typeName).isSome := by
  rw [← Universe.firstUnmet?_eq_none_iff]
  refine ⟨?_, hx.succeeds⟩
  rintro ⟨a, ha⟩
  cases hfirst : u.firstUnmet? es with
  | none => rfl
  | some e =>
      have he := hx.fails e hfirst
      rw [ha] at he
      cases he

/-- A computation fails with the first of its requirements that is not met. -/
theorem Requires.error_iff (hx : x.Requires u es) (e : ResolveError) :
    x.outcome = .error e ↔ u.firstUnmet? es = some e := by
  refine ⟨?_, hx.fails e⟩
  intro he
  cases hfirst : u.firstUnmet? es with
  | none =>
      obtain ⟨a, ha⟩ := hx.succeeds hfirst
      rw [ha] at he
      cases he
  | some e' =>
      have he' := hx.fails e' hfirst
      rw [he] at he'
      cases he'
      rfl

/-- What a computation fails on is one of its requirements, and is missing. -/
theorem Requires.unmet_of_error (hx : x.Requires u es) {e : ResolveError}
    (he : x.outcome = .error e) : e ∈ es ∧ u.find? e.typeName = none := by
  have hfirst : u.firstUnmet? es = some e := (hx.error_iff e).mp he
  refine ⟨List.mem_of_find?_eq_some hfirst, ?_⟩
  simpa using List.find?_some hfirst

theorem Requires.error_of_unmet (hx : x.Requires u es) {e : ResolveError} (he : e ∈ es)
    (hunmet : u.find? e.typeName = none) : ∃ e', x.outcome = .error e' := by
  cases houtcome : x.outcome with
  | error e' => exact ⟨e', rfl⟩
  | ok a =>
      have hmet := hx.ok_iff.mp ⟨a, houtcome⟩ e he
      rw [hunmet] at hmet
      cases hmet

end Resolution

open Resolution

theorem requireAttribute_requires (u : Universe) (v : Variant) (relative : String) :
    (requireAttribute u v relative).Requires u
      [.missingRequiredType v (v.attributeName relative)] :=
  requires_require u (.missingRequiredType v (v.attributeName relative))

theorem resolveAttributes_requires (u : Universe) (v : Variant) :
    (resolveAttributes u v).Requires u v.requirements :=
  (requireAttribute_requires u v _).bind fun _ _ =>
    (requireAttribute_requires u v _).bind fun _ _ =>
      (requireAttribute_requires u v _).bind_ok fun _ => ⟨_, rfl⟩

/-- The capabilities of a table are asked for, but nothing depends on the answer. -/
theorem resolveTable_requires (u : Universe) (v : Variant) (isWinUi : Bool) :
    (resolveTable v u isWinUi).Requires u v.requirements :=
  (resolveAttributes_requires u v).bind_ok fun _ => by
    cases v <;> exact ⟨_, rfl⟩

/-- By induction on the variants: a table after the others is required after what they
require. -/
theorem resolveTables_requires (u : Universe) (isWinUi : Bool) (vs : List Variant)
    (slots : Slots) (diagnostics : Diagnostics) :
    (Context.resolveTables u isWinUi vs slots diagnostics).Requires u
      (vs.flatMap Variant.requirements) := by
  induction vs generalizing slots diagnostics with
  | nil => exact requires_of_ok rfl
  | cons v vs ih =>
      rw [List.flatMap_cons]
      exact (resolveTable_requires u v isWinUi).bind fun table _ =>
        ih (slots.fill table v.slot) (diagnostics.recordTable v table)

theorem resolveCommon_requires (u : Universe) : (resolveCommon u).Requires u commonRequirements :=
  (requires_require u (.missingCommonType _)).bind fun _ _ =>
    (requires_require u (.missingCommonType _)).bind fun _ _ =>
      (requires_require u (.missingCommonType _)).bind fun _ _ =>
        (requires_require u (.missingCommonType _)).bind fun _ _ =>
          (requires_require u (.missingCommonType _)).bind_ok fun _ => ⟨_, rfl⟩

def Universe.detected (u : Universe) (config : Config) : List Variant :=
  (detect u config.detection).value.variants.toList

/-- The common types come last. -/
theorem resolve_requires (u : Universe) (config : Config) :
    (Context.resolve u config).Requires u (requirements (u.detected config)) := by
  have hdetect : (liftM (detect u config.detection) : Resolution Detection).Requires u [] :=
    requires_of_ok rfl
  refine hdetect.bind ?_
  intro detection hdetection
  cases hdetection
  refine (resolveTables_requires u _ _ _ _).bind ?_
  intro tables _
  exact (resolveCommon_requires u).bind_ok fun _ => ⟨_, rfl⟩

/-- A resolution succeeds exactly where all that its detected variants require
is there, and otherwise reports the first requirement that is not met, on behalf
of the detected variant that has it. No other name has a part in this: another
compilation with the same frameworks and the same required types fails with the
same error, and an optional capability is never what a resolution fails on. -/
theorem resolve_reports_first_unmet (u : Universe) (config : Config) :
    let required := requirements (u.detected config)
    let outcome := (Context.resolve u config).outcome
    ((∃ c, outcome = .ok c) ↔ ∀ r ∈ required, (u.find? r.typeName).isSome) ∧
    (∀ e, outcome = .error e ↔
      ∃ before after, required = before ++ e :: after ∧
        (∀ r ∈ before, (u.find? r.typeName).isSome) ∧ u.find? e.typeName = none) ∧
    (∀ v name, outcome = .error (.missingRequiredType v name) →
      v ∈ u.detected config ∧ name ∈ v.attributeNames) ∧
    (∀ name, outcome = .error (.missingCommonType name) → name ∈ commonNames) ∧
    (∀ e, outcome = .error e → e.typeName ∉ optionalNames) ∧
    ∀ w : Universe, w.detected config = u.detected config →
      (∀ r ∈ required, (w.find? r.typeName).isSome = (u.find? r.typeName).isSome) →
      ∀ e, (Context.resolve w config).outcome = .error e ↔ outcome = .error e := by
  intro required outcome
  have hrequires := resolve_requires u config
  have hmem : ∀ e, outcome = .error e → e ∈ required := by
    intro e he
    exact List.mem_of_find?_eq_some ((hrequires.error_iff e).mp he)
  refine ⟨hrequires.ok_iff, ?_, ?_, ?_, ?_, ?_⟩
  · intro e
    exact (hrequires.error_iff e).trans Universe.firstUnmet?_eq_some_iff
  · intro v name he
    exact missingRequiredType_mem_requirements.mp (hmem _ he)
  · intro name he
    exact missingCommonType_mem_requirements.mp (hmem _ he)
  · intro e he hoptional
    exact optional_not_required hoptional (typeName_mem_required (hmem e he))
  · intro w hdetected hsame e
    have hw := resolve_requires w config
    rw [hdetected] at hw
    rw [hw.error_iff, hrequires.error_iff, Universe.firstUnmet?_congr hsame]

end MvvmSymbols
