/-!
Candidates: the class declarations of a syntax walk. All are kept, in the order
of the walk; whether one is a view model is for the generation stage to decide.
-/

namespace MvvmSymbols

/-- A class declaration, with the text of its attribute lists as written. -/
structure DeclarationSite where
  name : String
  file : String
  line : UInt32
  column : UInt32
  attributes : List String
  isPartial : Bool
deriving DecidableEq

inductive SyntaxNode where
  | classDeclaration (site : DeclarationSite)
  | other (kind : String)
deriving DecidableEq

/-- The candidates found so far, in the order of the walk. -/
structure Collector where
  candidates : List DeclarationSite := []
deriving DecidableEq

namespace Collector

def visit (c : Collector) : SyntaxNode → Collector
  | .classDeclaration site => ⟨c.candidates ++ [site]⟩
  | .other _ => c

def visitAll (c : Collector) (nodes : List SyntaxNode) : Collector := nodes.foldl visit c

def size (c : Collector) : Nat := c.candidates.length

def isEmpty (c : Collector) : Bool := c.candidates.isEmpty

end Collector

end MvvmSymbols
