import Mathlib.Data.List.Basic
import MvvmSymbols.Config.Validate
import MvvmSymbols.Logging.Subscriber

/-!
Filters read strictly and leniently. Validation stops at the first piece that is
not a directive; setting up logging passes over such pieces. Both go by the same
reading of one piece, so that the directives in force are those of the pieces that
validation would accept one by one, and all of them where it accepts the filter.

A piece that would have to be cut inside a character has no place in this. It ends
the program, under either reading, and there is nothing that a caller could be
told of it.
-/

namespace MvvmSymbols

variable {patterns : Text.Pattern.Reader}

def Directive.read? (patterns : Text.Pattern.Reader) (piece : List Char) : Option Directive :=
  (Directive.ofText patterns piece).toOption

def Directive.fault? (patterns : Text.Pattern.Reader) (piece : List Char) :
    Option DirectiveFault :=
  match Directive.ofText patterns piece with
  | .ok _ => none
  | .error fault => some fault

/-- Why the first piece that is not a directive is none. -/
def Filter.firstFault? (patterns : Text.Pattern.Reader) (pieces : List (List Char)) :
    Option DirectiveFault :=
  pieces.findSome? (Directive.fault? patterns)

/-- Validation accepts the piece as a filter of its own. -/
def TracingConfig.accepts (patterns : Text.Pattern.Reader) (piece : List Char) : Bool :=
  (TracingConfig.validate { filter := some (String.ofList piece) } patterns).toBool

theorem Directive.fault?_eq_none_iff {piece : List Char} :
    Directive.fault? patterns piece = none ↔ ∃ d, Directive.ofText patterns piece = .ok d := by
  unfold fault?
  cases Directive.ofText patterns piece <;> simp

theorem Directive.fault?_eq_some_iff {piece : List Char} {fault : DirectiveFault} :
    Directive.fault? patterns piece = some fault ↔
      Directive.ofText patterns piece = .error fault := by
  unfold fault?
  cases Directive.ofText patterns piece <;> simp

/-- The default filter asks for no field, so its reading does not depend on patterns. -/
theorem Directive.ofText_default : Directive.ofText patterns WellKnown.defaultFilter.toList =
    .ok { threshold := .upTo .info } := by
  have htext : WellKnown.defaultFilter.toList = ['i', 'n', 'f', 'o'] := rfl
  have htrim : Text.trim ['i', 'n', 'f', 'o'] = ['i', 'n', 'f', 'o'] := by decide +kernel
  have hbegins : beginsName 'i' = true := by decide +kernel
  have hlevel : finish ['i', 'n', 'f', 'o'] {} (.levelOrTarget 0) =
      .ok { threshold := .upTo .info } := by decide +kernel
  rw [htext, ofText, htrim]
  simpa [scanFrom, advance, hbegins] using hlevel

namespace Filter

/-- A comma separates pieces and is part of none. -/
theorem pieces_append (f g : String) : pieces (f ++ "," ++ g) = pieces f ++ pieces g := by
  have hchars : (f ++ "," ++ g).toList = f.toList ++ ',' :: g.toList := by
    simp
  rw [pieces, hchars, Text.split_append, List.filter_append]
  rfl

/-- A piece, taken by itself, is a filter of one piece. -/
theorem pieces_of_mem {text : String} {piece : List Char} (h : piece ∈ pieces text) :
    pieces (String.ofList piece) = [piece] := by
  obtain ⟨hpart, hfull⟩ := List.mem_filter.mp h
  have hcomma := Text.not_mem_of_mem_split hpart
  rw [pieces, String.toList_ofList, Text.split_of_not_mem hcomma, List.filter_singleton, hfull]
  rfl

theorem firstFault?_cons (piece : List Char) (ps : List (List Char)) :
    firstFault? patterns (piece :: ps) =
      (Directive.fault? patterns piece).or (firstFault? patterns ps) := by
  rw [firstFault?, List.findSome?_cons]
  cases Directive.fault? patterns piece <;> rfl

theorem firstFault?_append (ps qs : List (List Char)) :
    firstFault? patterns (ps ++ qs) = (firstFault? patterns ps).or (firstFault? patterns qs) :=
  List.findSome?_append

theorem firstFault?_eq_none_iff {ps : List (List Char)} :
    firstFault? patterns ps = none ↔
      ∀ piece ∈ ps, ∃ d, Directive.ofText patterns piece = .ok d := by
  simp only [firstFault?, List.findSome?_eq_none_iff, Directive.fault?_eq_none_iff]

/-- The first fault has only directives before it, and anything after it. -/
theorem firstFault?_eq_some_iff {ps : List (List Char)} {fault : DirectiveFault} :
    firstFault? patterns ps = some fault ↔ ∃ before piece after, ps = before ++ piece :: after ∧
      (∀ p ∈ before, ∃ d, Directive.ofText patterns p = .ok d) ∧
        Directive.ofText patterns piece = .error fault := by
  simp only [firstFault?, List.findSome?_eq_some_iff, Directive.fault?_eq_none_iff,
    Directive.fault?_eq_some_iff]
  constructor
  · rintro ⟨before, piece, after, hsplit, hfault, hbefore⟩
    exact ⟨before, piece, after, hsplit, hbefore, hfault⟩
  · rintro ⟨before, piece, after, hsplit, hbefore, hfault⟩
    exact ⟨before, piece, after, hsplit, hfault, hbefore⟩

/-- The strict reading: all directives, or the first fault. -/
theorem readAll_eq (ps : List (List Char)) :
    readAll patterns ps =
      match firstFault? patterns ps with
      | none => .ok (ps.filterMap (Directive.read? patterns))
      | some fault => .error fault := by
  induction ps with
  | nil => rfl
  | cons piece ps ih =>
      unfold readAll
      rw [firstFault?_cons, List.filterMap_cons, ih, Directive.read?]
      cases hpiece : Directive.ofText patterns piece with
      | error fault =>
          rw [Directive.fault?_eq_some_iff.mpr hpiece]
          rfl
      | ok d =>
          rw [Directive.fault?_eq_none_iff.mpr ⟨d, hpiece⟩, Option.none_or]
          cases firstFault? patterns ps <;> rfl

/-- The lenient reading: the directives that there are. -/
theorem readValid_eq {ps : List (List Char)}
    (hcut : ∀ piece ∈ ps, Directive.ofText patterns piece ≠ .error .cutCharacter) :
    readValid patterns ps = .ok (ps.filterMap (Directive.read? patterns)) := by
  induction ps with
  | nil => rfl
  | cons piece ps ih =>
      obtain ⟨hfirst, hrest⟩ := List.forall_mem_cons.mp hcut
      unfold readValid
      rw [ih hrest, List.filterMap_cons, Directive.read?]
      cases hpiece : Directive.ofText patterns piece with
      | ok d => rfl
      | error fault =>
          cases fault with
          | cutCharacter => exact absurd hpiece hfirst
          | malformed | badLevel | badValue _ => rfl

/-- Leniency ends at a piece whose parts cannot be cut. -/
theorem readValid_of_cut {ps : List (List Char)} {piece : List Char} (hmem : piece ∈ ps)
    (hcut : Directive.ofText patterns piece = .error .cutCharacter) :
    readValid patterns ps = .error .cutCharacter := by
  induction ps with
  | nil => cases hmem
  | cons first ps ih =>
      unfold readValid
      rcases List.mem_cons.mp hmem with rfl | hlater
      · rw [hcut]
      · rw [ih hlater]
        cases hfirst : Directive.ofText patterns first with
        | ok d => rfl
        | error fault => cases fault <;> rfl

end Filter

/-- A piece is faulty in a way that the caller is told of, or it ends the program. -/
theorem DirectiveFault.halt_eq (fault : DirectiveFault) :
    (fault = .cutCharacter ∧ fault.halt = .crash) ∨
      ∃ text, fault.halt = .error (.validation "tracing.filter" text) := by
  cases fault with
  | cutCharacter => exact Or.inl ⟨rfl, rfl⟩
  | malformed | badLevel | badValue _ => exact Or.inr ⟨_, rfl⟩

/-- That the fallback is disabled comes before all that there is to say of the filter. -/
theorem DetectionConfig.validate_of_fallback_disabled (d : DetectionConfig) (c : TracingConfig)
    (patterns : Text.Pattern.Reader) (hnone : .none ∈ d.disabledVariants) :
    Config.validate { detection := d, tracing := c } patterns =
      .error (.error (.validation "detection.disabled_variants"
        "'none' is the fallback variant and cannot be disabled")) := by
  have hdisabled : d.isDisabled .none = true := decide_eq_true hnone
  rw [Config.validate, DetectionConfig.validate, if_pos hdisabled]
  rfl

namespace TracingConfig

open MvvmSymbols.Filter

/-- A filter fails validation on account of its first fault. -/
theorem validate_filter (text : String) (withTarget : Option Bool) :
    validate { filter := some text, withTarget } patterns =
      match firstFault? patterns (pieces text) with
      | none => .ok ()
      | some fault => .error fault.halt := by
  rw [validate, Option.map_some, ofStrict, readAll_eq]
  cases firstFault? patterns (pieces text) <;> rfl

variable {text : String} {withTarget : Option Bool}

theorem validate_eq_ok_iff :
    validate { filter := some text, withTarget } patterns = .ok () ↔
      ∀ piece ∈ pieces text, ∃ d, Directive.ofText patterns piece = .ok d := by
  rw [validate_filter, ← firstFault?_eq_none_iff]
  cases firstFault? patterns (pieces text) <;> simp

/-- Validation fails with what there is to say of the first faulty piece. -/
theorem validate_eq_error_iff {halt : Halt} :
    validate { filter := some text, withTarget } patterns = .error halt ↔
      ∃ before piece after fault, pieces text = before ++ piece :: after ∧
        (∀ p ∈ before, ∃ d, Directive.ofText patterns p = .ok d) ∧
        Directive.ofText patterns piece = .error fault ∧ halt = fault.halt := by
  have hfault : validate { filter := some text, withTarget } patterns = .error halt ↔
      ∃ fault, firstFault? patterns (pieces text) = some fault ∧ halt = fault.halt := by
    rw [validate_filter]
    cases firstFault? patterns (pieces text) <;> simp [eq_comm]
  simp only [hfault, firstFault?_eq_some_iff]
  constructor
  · rintro ⟨fault, ⟨before, piece, after, hsplit, hbefore, hpiece⟩, hhalt⟩
    exact ⟨before, piece, after, fault, hsplit, hbefore, hpiece, hhalt⟩
  · rintro ⟨before, piece, after, fault, hsplit, hbefore, hpiece, hhalt⟩
    exact ⟨fault, ⟨before, piece, after, hsplit, hbefore, hpiece⟩, hhalt⟩

example : validate { filter := some "info,[\x7ba=(\x7d]" } =
    .error (.error (.validation "tracing.filter" "invalid field filter: error building NFA")) := by
  decide +kernel

theorem validate_append (f g : String) (withTarget : Option Bool) :
    validate { filter := some (f ++ "," ++ g), withTarget } patterns =
      (validate { filter := some f, withTarget } patterns).bind fun _ =>
        validate { filter := some g, withTarget } patterns := by
  simp only [validate_filter, pieces_append, firstFault?_append]
  cases firstFault? patterns (pieces f) <;> rfl

theorem accepts_of_mem {piece : List Char} (h : piece ∈ pieces text) :
    accepts patterns piece = (Directive.read? patterns piece).isSome := by
  rw [accepts, validate_filter, pieces_of_mem h, firstFault?_cons, Directive.read?]
  cases hpiece : Directive.ofText patterns piece with
  | ok d =>
      rw [Directive.fault?_eq_none_iff.mpr ⟨d, hpiece⟩]
      rfl
  | error fault =>
      rw [Directive.fault?_eq_some_iff.mpr hpiece]
      rfl

/-- Read strictly, the pieces that are accepted give what the lenient reading gives. -/
theorem readAll_accepted (text : String) :
    readAll patterns ((pieces text).filter (accepts patterns)) =
      .ok ((pieces text).filterMap (Directive.read? patterns)) := by
  have hvalid : firstFault? patterns ((pieces text).filter (accepts patterns)) = none := by
    rw [firstFault?_eq_none_iff]
    intro piece hpiece
    obtain ⟨hmem, haccepted⟩ := List.mem_filter.mp hpiece
    rw [accepts_of_mem hmem, Directive.read?] at haccepted
    cases hread : Directive.ofText patterns piece with
    | ok d => exact ⟨d, rfl⟩
    | error fault =>
        rw [hread] at haccepted
        cases haccepted
  have hsame : ((pieces text).filter (accepts patterns)).filterMap (Directive.read? patterns) =
      (pieces text).filterMap (Directive.read? patterns) := by
    rw [List.filterMap_filter]
    apply List.filterMap_congr
    intro piece hmem
    rw [accepts_of_mem hmem]
    cases Directive.read? patterns piece <;> rfl
  rw [readAll_eq, hvalid, hsame]

/-- Of a filter that is in force by a valid configuration, no piece is passed over. -/
theorem filter_accepts_of_valid {c : TracingConfig} (h : c.validate patterns = .ok ()) :
    (pieces c.effectiveFilter).filter (accepts patterns) = pieces c.effectiveFilter := by
  rw [List.filter_eq_self]
  intro piece hmem
  obtain ⟨filter, withTarget⟩ := c
  cases filter with
  | none =>
      have hpieces : pieces WellKnown.defaultFilter = [WellKnown.defaultFilter.toList] := by
        decide +kernel
      have hmem : piece ∈ pieces WellKnown.defaultFilter := hmem
      rw [accepts_of_mem hmem, Directive.read?]
      rw [hpieces, List.mem_singleton] at hmem
      rw [hmem, Directive.ofText_default]
      rfl
  | some text =>
      have hmem : piece ∈ pieces text := hmem
      obtain ⟨d, hd⟩ := validate_eq_ok_iff.mp h piece hmem
      rw [accepts_of_mem hmem, Directive.read?, hd]
      rfl

end TracingConfig

/-- Where the environment sets no filter, or one that is not valid, the configured
one is read, and leniently. -/
theorem Filter.select_of_rejected {environment : Option String} (configured : String)
    {withTarget : Option Bool}
    (h : ∀ text, environment = some text →
      ∃ e, TracingConfig.validate { filter := some text, withTarget } patterns =
        .error (.error e)) :
    select patterns environment configured = ofLenient patterns configured := by
  cases environment with
  | none => rfl
  | some text =>
      obtain ⟨e, he⟩ := h text rfl
      rw [TracingConfig.validate, Option.map_some] at he
      rw [select, Option.map_some]
      cases hstrict : ofStrict patterns text with
      | ok filter =>
          rw [hstrict] at he
          cases he
      | error fault =>
          rw [hstrict] at he
          cases fault with
          | cutCharacter => cases he
          | malformed | badLevel | badValue _ => rfl

namespace Subscriber

variable {environment : Option String} {c : TracingConfig}

/-- A lenient reading installs what it could read. -/
theorem install_of_lenient
    (hselect : Filter.select patterns environment c.effectiveFilter =
      Filter.ofLenient patterns c.effectiveFilter)
    (hcut : ∀ piece ∈ Filter.pieces c.effectiveFilter,
      Directive.ofText patterns piece ≠ .error .cutCharacter) :
    ∃ s, install environment c none patterns = .ok (true, some s) ∧
      s.filter = Filter.ofDirectives (.upTo .error)
        ((Filter.pieces c.effectiveFilter).filterMap (Directive.read? patterns)) := by
  rw [install, ofConfig, hselect, Filter.ofLenient, Filter.readValid_eq hcut]
  exact ⟨_, rfl, rfl⟩

theorem install_of_cut
    (hselect : Filter.select patterns environment c.effectiveFilter =
      Filter.ofLenient patterns c.effectiveFilter)
    {piece : List Char} (hmem : piece ∈ Filter.pieces c.effectiveFilter)
    (hcut : Directive.ofText patterns piece = .error .cutCharacter) :
    install environment c none patterns = .error .cutCharacter := by
  rw [install, ofConfig, hselect, Filter.ofLenient, Filter.readValid_of_cut hmem hcut]
  rfl

end Subscriber

/-- Validation and installation judge each piece of a filter alike. A filter is
valid iff all its pieces are directives, and otherwise validation ends with the
fault of the first that is none; so of two filters in a row the first one that is
not valid decides. Where the environment sets no valid filter, logging goes by
those pieces of the configured one that are valid by themselves, which are all of
them if it is valid. Either reading ends the program at a piece that would be cut
inside a character. A configuration that disables the fallback is not valid,
whatever its filter is. -/
theorem strict_and_lenient_readings_agree (f g : String) (withTarget : Option Bool)
    (environment : Option String) (c : TracingConfig) (patterns : Text.Pattern.Reader) :
    let validate (text : String) :=
      TracingConfig.validate { filter := some text, withTarget } patterns
    let pieces := Filter.pieces c.effectiveFilter
    (validate f = .ok () ↔
      ∀ piece ∈ Filter.pieces f, ∃ d, Directive.ofText patterns piece = .ok d) ∧
    (∀ halt, validate f = .error halt ↔
      ∃ before piece after fault, Filter.pieces f = before ++ piece :: after ∧
        (∀ p ∈ before, ∃ d, Directive.ofText patterns p = .ok d) ∧
        Directive.ofText patterns piece = .error fault ∧ halt = fault.halt) ∧
    (∀ fault : DirectiveFault, (fault = .cutCharacter ∧ fault.halt = .crash) ∨
      ∃ text, fault.halt = .error (.validation "tracing.filter" text)) ∧
    validate (f ++ "," ++ g) = (validate f).bind (fun _ => validate g) ∧
    ((∀ text, environment = some text → ∃ e, validate text = .error (.error e)) →
      ((∀ piece ∈ pieces, Directive.ofText patterns piece ≠ .error .cutCharacter) →
        ∃ s ds, Subscriber.install environment c none patterns = .ok (true, some s) ∧
          Filter.readAll patterns (pieces.filter (TracingConfig.accepts patterns)) = .ok ds ∧
          s.filter = Filter.ofDirectives (.upTo .error) ds) ∧
      ((∃ piece ∈ pieces, Directive.ofText patterns piece = .error .cutCharacter) →
        Subscriber.install environment c none patterns = .error .cutCharacter)) ∧
    (c.validate patterns = .ok () →
      pieces.filter (TracingConfig.accepts patterns) = pieces) ∧
    ∀ d : DetectionConfig, .none ∈ d.disabledVariants →
      Config.validate { detection := d, tracing := c } patterns =
        .error (.error (.validation "detection.disabled_variants"
          "'none' is the fallback variant and cannot be disabled")) := by
  intro validate pieces
  refine ⟨TracingConfig.validate_eq_ok_iff, fun _ => TracingConfig.validate_eq_error_iff,
    DirectiveFault.halt_eq, TracingConfig.validate_append f g withTarget, ?_,
    TracingConfig.filter_accepts_of_valid, fun d => d.validate_of_fallback_disabled c patterns⟩
  intro henvironment
  have hselect := Filter.select_of_rejected c.effectiveFilter henvironment
  refine ⟨?_, ?_⟩
  · intro hcut
    obtain ⟨s, hinstalled, hfilter⟩ := Subscriber.install_of_lenient hselect hcut
    exact ⟨s, _, hinstalled, TracingConfig.readAll_accepted _, hfilter⟩
  · rintro ⟨piece, hmem, hcut⟩
    exact Subscriber.install_of_cut hselect hmem hcut

/-- A wide blank in front of a scope shifts the name of the scope into the middle
of the blank. So there is no answer to whether the filter is valid, although its
only piece is a directive in all but the blank. -/
theorem wide_blank_cuts_scope :
    Filter.pieces "\u3000[a]" = ["\u3000[a]".toList] ∧
      (∃ d, Directive.ofText Text.Pattern.reader "[a]".toList = .ok d) ∧
      TracingConfig.validate { filter := some "\u3000[a]" } = .error .crash := by
  refine ⟨by decide +kernel, ⟨{ scope := some "a" }, by decide +kernel⟩, ?_⟩
  rw [TracingConfig.validate_eq_error_iff]
  exact ⟨[], "\u3000[a]".toList, [], .cutCharacter, by decide +kernel, nofun,
    by decide +kernel, rfl⟩

end MvvmSymbols
