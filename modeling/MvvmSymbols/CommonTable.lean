import MvvmSymbols.Failure
import MvvmSymbols.Universe

/-!
The types of the standard library that generated code needs whatever the
framework. All are required: a compilation without one of them is malformed.
-/

namespace MvvmSymbols

structure CommonTable where
  propertyChanged : TypeIdentity
  propertyChanging : TypeIdentity
  task : TypeIdentity
  boolean : TypeIdentity
  attributeUsage : TypeIdentity
deriving DecidableEq

def requireCommon (u : Universe) (name : String) : Resolution TypeIdentity :=
  require (u.find? name) (.missingCommonType name)

def resolveCommon (u : Universe) : Resolution CommonTable := do
  let propertyChanged ← requireCommon u WellKnown.propertyChanged
  let propertyChanging ← requireCommon u WellKnown.propertyChanging
  let task ← requireCommon u WellKnown.task
  let boolean ← requireCommon u WellKnown.boolean
  let attributeUsage ← requireCommon u WellKnown.attributeUsage
  return { propertyChanged, propertyChanging, task, boolean, attributeUsage }

end MvvmSymbols
