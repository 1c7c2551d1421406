import MvvmSymbols.Config
import MvvmSymbols.Config.Failure
import MvvmSymbols.Logging.Filter

/-!
Conditions on a configuration that its form does not express: the fallback
variant cannot be disabled, and every piece of the filter must be a directive.
-/

namespace MvvmSymbols

def DetectionConfig.validate (c : DetectionConfig) : Except Halt Unit :=
  if c.isDisabled .none then
    .error (.error (.validation "detection.disabled_variants"
      "'none' is the fallback variant and cannot be disabled"))
  else .ok ()

/-- A fault in a filter as validation reports it. A piece that cannot be cut
where the scan asks for it ends the program. -/
def DirectiveFault.halt : DirectiveFault → Halt
  | .malformed => .error (.validation "tracing.filter" "invalid filter directive")
  | .badLevel =>
    .error (.validation "tracing.filter"
      ("error parsing level filter: expected one of \"off\", \"error\", \"warn\", \"info\", " ++
        "\"debug\", \"trace\", or a number 0-5"))
  | .badValue complaint =>
    .error (.validation "tracing.filter" ("invalid field filter: " ++ complaint))
  | .cutCharacter => .crash

def TracingConfig.validate (c : TracingConfig)
    (patterns : Text.Pattern.Reader := Text.Pattern.reader) : Except Halt Unit :=
  match c.filter.map (Filter.ofStrict patterns) with
  | some (.error fault) => .error fault.halt
  | some (.ok _) | none => .ok ()

/-- Detection is checked before logging. -/
def Config.validate (c : Config) (patterns : Text.Pattern.Reader := Text.Pattern.reader) :
    Except Halt Unit := do
  c.detection.validate
  c.tracing.validate patterns

end MvvmSymbols
