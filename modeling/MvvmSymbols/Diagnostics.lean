import MvvmSymbols.Detection
import MvvmSymbols.Table

/-!
Diagnostics: what a resolution detected, and which optional capabilities were
not available.
-/

namespace MvvmSymbols

structure Diagnostics where
  variantsDetected : List Variant := []
  isWinUi : Bool := false
  referencedLibraries : Nat := 0
  tablesBuilt : Nat := 0
  optionalResolved : Nat := 0
  optionalAbsent : Nat := 0
  /-- A variant and a type name for each capability that did not resolve. -/
  absentCapabilities : List (Variant × String) := []
deriving DecidableEq

namespace Diagnostics

def start (d : Detection) (u : Universe) : Diagnostics where
  variantsDetected := d.variants.toList
  isWinUi := d.isWinUi
  referencedLibraries := u.libraries.length

/-- Counts the optional slots of a table that was resolved for a variant. -/
def recordTable (s : Diagnostics) (v : Variant) (t : SymbolTable) : Diagnostics :=
  let (resolved, absent) := t.capabilities.partition (·.identity.isSome)
  { s with
    tablesBuilt := s.tablesBuilt + 1
    optionalResolved := s.optionalResolved + resolved.length
    optionalAbsent := s.optionalAbsent + absent.length
    absentCapabilities := s.absentCapabilities ++ absent.map (v, ·.typeName) }

def absentLabel (entry : Variant × String) : String := entry.1.name ++ ":" ++ entry.2

def summary (s : Diagnostics) : String :=
  "[vmgen-resolve] variants [" ++ ", ".intercalate (s.variantsDetected.map (·.name)) ++
    "] (win_ui: " ++ (if s.isWinUi then "true" else "false") ++ "), " ++
    toString s.tablesBuilt ++ " tables, " ++
    toString s.optionalResolved ++ " optional resolved, " ++
    toString s.optionalAbsent ++ " optional absent, " ++
    toString s.referencedLibraries ++ " referenced libraries"

end Diagnostics

end MvvmSymbols
