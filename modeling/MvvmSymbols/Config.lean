import MvvmSymbols.Variant

/-!
The configuration of the resolver: which variants are not to be detected, and
how the program logs.
-/

namespace MvvmSymbols

structure DetectionConfig where
  /-- Treated as absent even where their marker type is referenced. -/
  disabledVariants : List Variant := []
deriving DecidableEq

def DetectionConfig.isDisabled (c : DetectionConfig) (v : Variant) : Bool :=
  v ∈ c.disabledVariants

structure TracingConfig where
  filter : Option String := none
  /-- Whether log lines name the part of the program that they come from. -/
  withTarget : Option Bool := none
deriving DecidableEq

def TracingConfig.effectiveFilter (c : TracingConfig) : String :=
  c.filter.getD WellKnown.defaultFilter

def TracingConfig.effectiveWithTarget (c : TracingConfig) : Bool := c.withTarget.getD true

structure Config where
  detection : DetectionConfig := {}
  tracing : TracingConfig := {}
deriving DecidableEq

end MvvmSymbols
