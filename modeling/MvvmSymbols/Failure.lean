import MvvmSymbols.Reported

/-!
Why a resolution fails. A missing required type means that the compilation is
malformed; asking a finished context for a variant that was not detected is a
mistake of the caller. A missing optional capability is no failure.
-/

namespace MvvmSymbols

inductive ResolveError where
  | missingCommonType (typeName : String)
  | missingRequiredType (variant : Variant) (typeName : String)
deriving DecidableEq

namespace ResolveError

/-- The fully qualified name that did not resolve. -/
def typeName : ResolveError → String
  | .missingCommonType name | .missingRequiredType _ name => name

def message : ResolveError → String
  | .missingCommonType name =>
    "Required common type '" ++ name ++ "' is missing from the compilation"
  | .missingRequiredType v name =>
    "Required type '" ++ name ++ "' for detected variant '" ++ v.name ++
      "' is missing from the compilation"

def code : ResolveError → String
  | .missingCommonType _ => "RESOLVE_MISSING_COMMON_TYPE"
  | .missingRequiredType .. => "RESOLVE_MISSING_REQUIRED_TYPE"

def event : ResolveError → Event
  | .missingCommonType name => .commonMissing name
  | .missingRequiredType v name => .attributeMissing v name

end ResolveError

inductive LookupError where
  | variantNotDetected (variant : Variant)
deriving DecidableEq

namespace LookupError

def message : LookupError → String
  | .variantNotDetected v =>
    "Variant '" ++ v.name ++
      "' was not detected in this compilation; check the detected set before lookup"

def code : LookupError → String
  | .variantNotDetected _ => "LOOKUP_VARIANT_NOT_DETECTED"

end LookupError

/-- A computation that reports as it goes and stops at the first required type
that is missing. -/
abbrev Resolution := ExceptT ResolveError Reported

namespace Resolution

variable {α β : Type}

/-- What a caller gets: the value, or the failure that ended the computation. -/
def outcome (x : Resolution α) : Except ResolveError α := x.run.value

@[simp] theorem outcome_pure (a : α) : outcome (pure a) = .ok a := rfl

@[simp] theorem outcome_throw (e : ResolveError) :
    outcome (throw e : Resolution α) = .error e := rfl

@[simp] theorem outcome_lift (x : Reported α) : outcome (liftM x) = .ok x.value := rfl

theorem outcome_bind (x : Resolution α) (f : α → Resolution β) :
    outcome (x >>= f) = x.outcome.bind fun a => (f a).outcome := by
  simp only [outcome, ExceptT.run_bind, Reported.value_bind]
  cases x.run.value <;> rfl

/-- A sequence succeeds iff each of its steps does. -/
theorem outcome_bind_eq_ok {x : Resolution α} {f : α → Resolution β} {b : β} :
    outcome (x >>= f) = .ok b ↔ ∃ a, x.outcome = .ok a ∧ (f a).outcome = .ok b := by
  rw [outcome_bind]
  cases x.outcome <;> simp [Except.bind]

/-- A sequence fails with the first of its steps that does. -/
theorem outcome_bind_eq_error {x : Resolution α} {f : α → Resolution β} {e : ResolveError} :
    outcome (x >>= f) = .error e ↔
      x.outcome = .error e ∨ ∃ a, x.outcome = .ok a ∧ (f a).outcome = .error e := by
  rw [outcome_bind]
  cases x.outcome <;> simp [Except.bind]

theorem not_ok_iff {x : Resolution α} :
    (¬ ∃ a, x.outcome = .ok a) ↔ ∃ e, x.outcome = .error e := by
  cases x.outcome <;> simp

def events (x : Resolution α) : List Event := x.run.events

@[simp] theorem events_pure (a : α) : events (pure a) = [] := rfl

@[simp] theorem events_throw (e : ResolveError) : events (throw e : Resolution α) = [] := rfl

@[simp] theorem events_lift (x : Reported α) : events (liftM x) = x.events :=
  List.append_nil x.events

/-- A failure is the end of the report. -/
theorem events_bind (x : Resolution α) (f : α → Resolution β) :
    events (x >>= f) = x.events ++
      match x.outcome with
      | .ok a => (f a).events
      | .error _ => [] := by
  simp only [events, outcome, ExceptT.run_bind, Reported.events_bind]
  cases x.run.value <;> rfl

theorem events_bind_pure (x : Resolution α) (f : α → β) :
    events (x >>= fun a => pure (f a)) = x.events := by
  rw [events_bind]
  cases x.outcome <;> exact List.append_nil x.events

theorem events_bind_of_ok {x : Resolution α} {a : α} (h : x.outcome = .ok a)
    (f : α → Resolution β) : events (x >>= f) = x.events ++ (f a).events := by
  rw [events_bind, h]

theorem events_bind_of_error {x : Resolution α} {e : ResolveError} (h : x.outcome = .error e)
    (f : α → Resolution β) : events (x >>= f) = x.events := by
  rw [events_bind, h]
  exact List.append_nil x.events

end Resolution

/-- The handle of a required type. Where it is missing the failure is reported
as an event, and nothing is reported after it. -/
def require (found : Option TypeIdentity) (failure : ResolveError) : Resolution TypeIdentity :=
  match found with
  | some id => pure id
  | none => do
    report failure.event
    throw failure

theorem outcome_require_eq_ok {found : Option TypeIdentity} {failure : ResolveError}
    {id : TypeIdentity} : (require found failure).outcome = .ok id ↔ found = some id := by
  cases found with
  | none => exact ⟨nofun, nofun⟩
  | some _ => simp [require]

end MvvmSymbols
