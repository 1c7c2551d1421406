import MvvmSymbols.CommonTable
import MvvmSymbols.Diagnostics
import MvvmSymbols.Table.Resolve

/-!
The resolution context: everything that the generation stage needs to know of
one compilation. It is resolved once and then only read; a slot holds a table
iff a variant that uses the slot was detected.
-/

namespace MvvmSymbols

/-- The places for tables. The primary one serves the primary framework and the
fallback. -/
inductive Slot where
  | primary
  | prism
  | mvvmLight
deriving DecidableEq

def Variant.slot : Variant → Slot
  | .dx | .none => .primary
  | .prism => .prism
  | .mvvmLight => .mvvmLight

structure Slots where
  primary : Option SymbolTable := none
  prism : Option SymbolTable := none
  mvvmLight : Option SymbolTable := none
deriving DecidableEq

namespace Slots

def get (s : Slots) : Slot → Option SymbolTable
  | .primary => s.primary
  | .prism => s.prism
  | .mvvmLight => s.mvvmLight

def fill (s : Slots) (t : SymbolTable) : Slot → Slots
  | .primary => { s with primary := some t }
  | .prism => { s with prism := some t }
  | .mvvmLight => { s with mvvmLight := some t }

theorem get_fill (s : Slots) (t : SymbolTable) (a b : Slot) :
    (s.fill t a).get b = if a = b then some t else s.get b := by
  cases a <;> cases b <;> rfl

end Slots

structure Context where
  compilation : CompilationId
  detection : Detection
  tables : Slots
  common : CommonTable
  diagnostics : Diagnostics
deriving DecidableEq

namespace Context

/-- Resolves the table of each variant into its slot and counts it; the first
failure ends the resolution. -/
def resolveTables (u : Universe) (isWinUi : Bool) :
    List Variant → Slots → Diagnostics → Resolution (Slots × Diagnostics)
  | [], slots, diagnostics => return (slots, diagnostics)
  | v :: vs, slots, diagnostics => do
    let table ← resolveTable v u isWinUi
    resolveTables u isWinUi vs (slots.fill table v.slot) (diagnostics.recordTable v table)

def resolve (u : Universe) (config : Config) : Resolution Context := do
  let detection ← detect u config.detection
  let (tables, diagnostics) ←
    resolveTables u detection.isWinUi detection.variants.toList {} (.start detection u)
  let common ← resolveCommon u
  report (.contextBuilt u.compilation diagnostics.summary)
  return { compilation := u.compilation, detection, tables, common, diagnostics }

/-- The table that serves a variant. Asking for a variant without one is a
mistake of the caller, not answered by a default. -/
def lookup (c : Context) (v : Variant) : Except LookupError SymbolTable :=
  match c.tables.get v.slot with
  | some table => .ok table
  | none => .error (.variantNotDetected v)

def detectedTables (c : Context) : Except LookupError (List (Variant × SymbolTable)) :=
  c.detection.variants.toList.mapM fun v => (c.lookup v).map (v, ·)

def isDetected (c : Context) (v : Variant) : Bool := c.detection.contains v

def isWinUi (c : Context) : Bool := c.detection.isWinUi

def dx? (c : Context) : Option DxSymbols := c.tables.primary.bind (·.dx?)

def prism? (c : Context) : Option PrismSymbols := c.tables.prism.bind (·.prism?)

def mvvmLight? (c : Context) : Option MvvmLightSymbols := c.tables.mvvmLight.bind (·.mvvmLight?)

end Context

end MvvmSymbols
