/-!
The fully qualified type names that resolution asks a compilation about, and
the two names that logging is configured by.
-/

namespace MvvmSymbols.WellKnown

/-! Namespaces of the generation attributes. The primary one is also used when
no framework is referenced. -/

def dxNamespace : String := "DevExpress.Mvvm.CodeGenerators"

def prismNamespace : String := "DevExpress.Mvvm.CodeGenerators.Prism"

def mvvmLightNamespace : String := "DevExpress.Mvvm.CodeGenerators.MvvmLight"

-- Generation attributes, relative to the namespace of a variant.

def viewModelAttribute : String := "GenerateViewModelAttribute"

def propertyAttribute : String := "GeneratePropertyAttribute"

def commandAttribute : String := "GenerateCommandAttribute"

-- Markers: a command type that each runtime ships.

def dxMarker : String := "DevExpress.Mvvm.DelegateCommand"

def prismMarker : String := "Prism.Commands.DelegateCommand"

def mvvmLightMarker : String := "GalaSoft.MvvmLight.Command.RelayCommand"

/-- Present in the classic runtime of the primary framework only: where it is
missing, the runtime is the WinUI one. -/
def dxClassicMarker : String := "DevExpress.Mvvm.POCO.ViewModelSource"

-- Optional capabilities of the primary framework.

def dataErrorInfo : String := "System.ComponentModel.IDataErrorInfo"

def supportServices : String := "DevExpress.Mvvm.ISupportServices"

def supportParentViewModel : String := "DevExpress.Mvvm.ISupportParentViewModel"

def supportUiServices : String := "DevExpress.Mvvm.ISupportUIServices"

def cancellationToken : String := "System.Threading.CancellationToken"

-- Optional capabilities of the other frameworks.

def activeAware : String := "Prism.IActiveAware"

def cleanup : String := "GalaSoft.MvvmLight.ICleanup"

def wpfRelayCommand : String := "GalaSoft.MvvmLight.CommandWpf.RelayCommand"

-- Types of the standard library, required whatever the framework.

def propertyChanged : String := "System.ComponentModel.INotifyPropertyChanged"

def propertyChanging : String := "System.ComponentModel.INotifyPropertyChanging"

def task : String := "System.Threading.Tasks.Task"

def boolean : String := "System.Boolean"

def attributeUsage : String := "System.AttributeUsageAttribute"

-- Logging.

/-- The environment variable whose filter goes before the configured one. -/
def filterVariable : String := "VMGEN_LOG"

/-- The filter where neither the environment nor the configuration sets one. -/
def defaultFilter : String := "info"

end MvvmSymbols.WellKnown
