import MvvmSymbols.Variant
import MvvmSymbols.Identity

/-!
Events: what an operation has to say while it runs. An event is kept as its
cause; level, target, text and fields follow from that.
-/

namespace MvvmSymbols

inductive Level where
  | error
  | warn
  | info
  | debug
  | trace
deriving DecidableEq

namespace Level

/-- The verbosity at which events of this level start to be seen. -/
def verbosity : Level → Nat
  | .error => 1
  | .warn => 2
  | .info => 3
  | .debug => 4
  | .trace => 5

def name : Level → String
  | .error => "ERROR"
  | .warn => "WARN"
  | .info => "INFO"
  | .debug => "DEBUG"
  | .trace => "TRACE"

end Level

/-- The value of an event's field: written as it is, in quotes, or as a number. -/
inductive FieldValue where
  | plain (text : String)
  | quoted (text : String)
  | count (n : Nat)
deriving DecidableEq

inductive Event where
  /-- The configuration disables the variant, so its marker is not looked for. -/
  | probeSkipped (variant : Variant)
  | markerFound (variant : Variant) (marker : String)
  /-- A required attribute type of the variant is missing. -/
  | attributeMissing (variant : Variant) (typeName : String)
  | capabilityAbsent (variant : Variant) (typeName : String)
  /-- A type that every framework requires is missing. -/
  | commonMissing (typeName : String)
  | contextBuilt (compilation : CompilationId) (summary : String)
  | passResolved (candidates : Nat)
  /-- A configuration was loaded, from the file at this path if it comes from a file. -/
  | configLoaded (path : Option String)
deriving DecidableEq

namespace Event

def level : Event → Level
  | .attributeMissing .. | .commonMissing .. => .error
  | .contextBuilt .. => .info
  | .probeSkipped .. | .markerFound .. | .capabilityAbsent .. | .passResolved .. |
    .configLoaded .. => .debug

/-- The part of the program that an event comes from; filters select by it. -/
def target : Event → String
  | .probeSkipped .. | .markerFound .. => "vmgen_resolve::detection"
  | .attributeMissing .. | .capabilityAbsent .. => "vmgen_resolve::tables::builder"
  | .commonMissing .. => "vmgen_resolve::tables::common"
  | .contextBuilt .. => "vmgen_resolve::context"
  | .passResolved .. => "vmgen_resolve::pass"
  | .configLoaded .. => "vmgen_core::config"

def message : Event → String
  | .probeSkipped .. => "variant disabled by config, skipping probe"
  | .markerFound .. => "framework marker found"
  | .attributeMissing .. => "required attribute type missing for detected variant"
  | .capabilityAbsent .. => "optional capability absent"
  | .commonMissing .. => "common type missing from compilation"
  | .contextBuilt _ summary => summary
  | .passResolved .. => "generation pass resolved"
  | .configLoaded .. => "loaded vmgen config"

def fields : Event → List (String × FieldValue)
  | .probeSkipped v => [("variant", .plain v.name)]
  | .markerFound v marker => [("variant", .plain v.name), ("marker", .quoted marker)]
  | .attributeMissing v typeName => [("variant", .plain v.name), ("type_name", .quoted typeName)]
  | .capabilityAbsent v typeName => [("variant", .plain v.name), ("capability", .quoted typeName)]
  | .commonMissing typeName => [("type_name", .quoted typeName)]
  | .contextBuilt compilation _ => [("compilation", .plain compilation.render)]
  | .passResolved n => [("candidates", .count n)]
  | .configLoaded path => (path.map fun path => ("path", .plain path)).toList

end Event

/-- A stretch of work that events can lie in. -/
inductive Scope where
  | generationPass (compilation : CompilationId)
deriving DecidableEq

namespace Scope

def name : Scope → String
  | .generationPass _ => "generation_pass"

def level : Scope → Level
  | .generationPass _ => .info

def target : Scope → String
  | .generationPass _ => "vmgen_resolve::pass"

def fields : Scope → List (String × FieldValue)
  | .generationPass compilation => [("compilation", .plain compilation.render)]

end Scope

/-- An event together with the scopes that it lies in, outermost first. -/
structure Record where
  scopes : List Scope
  event : Event
deriving DecidableEq

end MvvmSymbols
