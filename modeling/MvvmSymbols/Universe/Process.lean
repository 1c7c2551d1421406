import MvvmSymbols.Universe.Snapshot

/-!
Builders, and the process that they live in. A builder collects the declarations
of one compilation. Freezing consumes it and takes the next number of a counter
that all builders of the process share.
-/

namespace MvvmSymbols

inductive BuilderCall where
  | type (name : String)
  | types (names : List String)
  | library (name : String)
deriving DecidableEq

namespace Declarations

def call (d : Declarations) : BuilderCall → Declarations
  | .type name => d.declare (.type name)
  | .types names => d.declareAll (names.map .type)
  | .library name => d.declare (.library name)

def ofCalls (calls : List BuilderCall) : Declarations := calls.foldl call {}

end Declarations

/-- The open builders by handle, the counter, and the universes that were
frozen, the oldest first. -/
structure Process where
  builders : List (Option Declarations) := []
  numbering : Numbering := {}
  frozen : List Snapshot := []

namespace Process

inductive Action where
  | create
  | call (builder : Nat) (call : BuilderCall)
  | freeze (builder : Nat)
deriving DecidableEq

/-- The builder behind a handle, as long as it is not frozen. -/
def builder? (p : Process) (handle : Nat) : Option Declarations := p.builders[handle]?.join

/-- Only a builder that is open can be called or frozen. -/
def step (p : Process) : Action → Option Process
  | .create => some { p with builders := p.builders ++ [some {}] }
  | .call handle call =>
    (p.builder? handle).map fun d =>
      { p with builders := p.builders.set handle (some (d.call call)) }
  | .freeze handle =>
    (p.builder? handle).map fun d =>
      let (snapshot, numbering) := d.freeze p.numbering
      { builders := p.builders.set handle none, numbering, frozen := p.frozen ++ [snapshot] }

def run (p : Process) (actions : List Action) : Option Process := actions.foldlM step p

end Process

end MvvmSymbols
