import MvvmSymbols.Failure
import MvvmSymbols.Table
import MvvmSymbols.Universe

/-!
Resolving the table of a detected variant. The attributes are required and come
first: where one is missing, no capability is asked for.
-/

namespace MvvmSymbols

def Variant.attributeName (v : Variant) (relative : String) : String :=
  v.attributeNamespace ++ "." ++ relative

/-- Required by a detected variant; the failure names the variant. -/
def requireAttribute (u : Universe) (v : Variant) (relative : String) : Resolution TypeIdentity :=
  let name := v.attributeName relative
  require (u.find? name) (.missingRequiredType v name)

def resolveAttributes (u : Universe) (v : Variant) : Resolution Attributes := do
  let viewModel ← requireAttribute u v WellKnown.viewModelAttribute
  let property ← requireAttribute u v WellKnown.propertyAttribute
  let command ← requireAttribute u v WellKnown.commandAttribute
  return { viewModel, property, command }

def probeCapability (u : Universe) (v : Variant) (name : String) :
    Reported (Option TypeIdentity) := do
  match u.find? name with
  | some id => return some id
  | none =>
    report (.capabilityAbsent v name)
    return none

/-- The services of the profile in force; the other profile's are not asked for. -/
def probeServices (u : Universe) (isWinUi : Bool) : Reported Services := do
  if isWinUi then
    let uiServices ← probeCapability u .dx WellKnown.supportUiServices
    let cancellationToken ← probeCapability u .dx WellKnown.cancellationToken
    return .winUi uiServices cancellationToken
  else
    let services ← probeCapability u .dx WellKnown.supportServices
    let parentViewModel ← probeCapability u .dx WellKnown.supportParentViewModel
    return .classic services parentViewModel

/-- Reports name the primary framework, also where the fallback asks. -/
def probeDx (u : Universe) (isWinUi : Bool) (attributes : Attributes) : Reported DxSymbols := do
  let services ← probeServices u isWinUi
  let dataErrorInfo ← probeCapability u .dx WellKnown.dataErrorInfo
  return { attributes, dataErrorInfo, services }

def probePrism (u : Universe) (attributes : Attributes) : Reported PrismSymbols := do
  let activeAware ← probeCapability u .prism WellKnown.activeAware
  return { attributes, activeAware }

def probeMvvmLight (u : Universe) (attributes : Attributes) : Reported MvvmLightSymbols := do
  let cleanup ← probeCapability u .mvvmLight WellKnown.cleanup
  let wpfRelayCommand ← probeCapability u .mvvmLight WellKnown.wpfRelayCommand
  return { attributes, cleanup, wpfRelayCommand }

/-- The fallback is resolved as the primary framework is, in the same namespace.
The profile matters to the primary table only. -/
def resolveTable (v : Variant) (u : Universe) (isWinUi : Bool) : Resolution SymbolTable := do
  let attributes ← resolveAttributes u v
  match v with
  | .dx | .none => return .dx (← probeDx u isWinUi attributes)
  | .prism => return .prism (← probePrism u attributes)
  | .mvvmLight => return .mvvmLight (← probeMvvmLight u attributes)

end MvvmSymbols
