import MvvmSymbols.Identity
import MvvmSymbols.Variant

/-!
Symbol tables: what the generation stage is given for one framework. Required
types are plain handles; an optional capability that is absent means only that
the feature which depends on it is not generated.
-/

namespace MvvmSymbols

/-- The generation attributes that every framework ships. -/
structure Attributes where
  viewModel : TypeIdentity
  property : TypeIdentity
  command : TypeIdentity
deriving DecidableEq

/-- Service capabilities of the primary framework. Its two profiles have
different ones, so a table holds those of one profile. -/
inductive Services where
  | classic (services parentViewModel : Option TypeIdentity)
  | winUi (uiServices cancellationToken : Option TypeIdentity)
deriving DecidableEq

namespace Services

def isWinUi : Services → Bool
  | .classic .. => false
  | .winUi .. => true

def servicesInterface : Services → Option TypeIdentity
  | .classic services _ => services
  | .winUi uiServices _ => uiServices

def parentViewModel? : Services → Option TypeIdentity
  | .classic _ parentViewModel => parentViewModel
  | .winUi .. => none

def cancellationToken? : Services → Option TypeIdentity
  | .classic .. => none
  | .winUi _ cancellationToken => cancellationToken

end Services

structure DxSymbols where
  attributes : Attributes
  dataErrorInfo : Option TypeIdentity
  services : Services
deriving DecidableEq

structure PrismSymbols where
  attributes : Attributes
  activeAware : Option TypeIdentity
deriving DecidableEq

structure MvvmLightSymbols where
  attributes : Attributes
  cleanup : Option TypeIdentity
  /-- The relay command of the separate WPF assembly. -/
  wpfRelayCommand : Option TypeIdentity
deriving DecidableEq

inductive SymbolTable where
  | dx (symbols : DxSymbols)
  | prism (symbols : PrismSymbols)
  | mvvmLight (symbols : MvvmLightSymbols)
deriving DecidableEq

/-- An optional slot of a table, by the type that it stands for. -/
structure Capability where
  typeName : String
  identity : Option TypeIdentity
deriving DecidableEq

namespace SymbolTable

def attributes : SymbolTable → Attributes
  | .dx t => t.attributes
  | .prism t => t.attributes
  | .mvvmLight t => t.attributes

/-- The framework whose namespace the table was resolved in. -/
def variant : SymbolTable → Variant
  | .dx _ => .dx
  | .prism _ => .prism
  | .mvvmLight _ => .mvvmLight

def dx? : SymbolTable → Option DxSymbols
  | .dx t => some t
  | _ => none

def prism? : SymbolTable → Option PrismSymbols
  | .prism t => some t
  | _ => none

def mvvmLight? : SymbolTable → Option MvvmLightSymbols
  | .mvvmLight t => some t
  | _ => none

def capabilities : SymbolTable → List Capability
  | .dx t =>
    ⟨WellKnown.dataErrorInfo, t.dataErrorInfo⟩ ::
      match t.services with
      | .classic services parentViewModel =>
        [⟨WellKnown.supportServices, services⟩,
          ⟨WellKnown.supportParentViewModel, parentViewModel⟩]
      | .winUi uiServices cancellationToken =>
        [⟨WellKnown.supportUiServices, uiServices⟩,
          ⟨WellKnown.cancellationToken, cancellationToken⟩]
  | .prism t => [⟨WellKnown.activeAware, t.activeAware⟩]
  | .mvvmLight t =>
    [⟨WellKnown.cleanup, t.cleanup⟩, ⟨WellKnown.wpfRelayCommand, t.wpfRelayCommand⟩]

end SymbolTable

end MvvmSymbols
