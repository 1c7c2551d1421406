import MvvmSymbols.Candidate
import MvvmSymbols.Context

/-!
A generation pass: a resolved context and the candidates of the syntax walk.
Nothing in a pass outlives it.
-/

namespace MvvmSymbols

structure Pass where
  context : Context
  candidates : List DeclarationSite
deriving DecidableEq

/-- What the generation stage needs for one variant. -/
structure Strategy where
  variant : Variant
  table : SymbolTable
  common : CommonTable
  isWinUi : Bool
deriving DecidableEq

namespace Pass

/-- Resolves the universe and takes over the collected candidates. -/
def execute (u : Universe) (collector : Collector) (config : Config) : Resolution Pass := do
  let context ← Context.resolve u config
  report (.passResolved collector.size)
  return { context, candidates := collector.candidates }

def scope (u : Universe) : Scope := .generationPass u.compilation

def strategies (p : Pass) : Except LookupError (List Strategy) :=
  p.context.detectedTables.map fun tables =>
    tables.map fun (variant, table) =>
      { variant, table, common := p.context.common, isWinUi := p.context.isWinUi }

end Pass

end MvvmSymbols
