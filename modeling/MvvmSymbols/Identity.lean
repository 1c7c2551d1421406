/-!
Handles of types. A handle belongs to one compilation: those of different
compilations are never equal, even where the types have the same name.
-/

namespace MvvmSymbols

/-- The number of a compilation. Numbers are handed out modulo 2³². -/
structure CompilationId where
  number : UInt32
deriving DecidableEq

def CompilationId.render (c : CompilationId) : String := "compilation#" ++ toString c.number.toNat

/-- A declared type of one compilation, by the number of its name there. -/
structure TypeIdentity where
  compilation : CompilationId
  key : Nat
deriving DecidableEq

def TypeIdentity.sameCompilation (a b : TypeIdentity) : Bool := a.compilation = b.compilation

def TypeIdentity.render (a : TypeIdentity) : String :=
  a.compilation.render ++ ":type#" ++ toString a.key

end MvvmSymbols
