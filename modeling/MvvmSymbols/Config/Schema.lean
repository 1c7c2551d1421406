import MvvmSymbols.Schema
import MvvmSymbols.Variant

/-!
The published schemas: of variants, of both groups of settings, and of the whole
configuration.
-/

namespace MvvmSymbols

namespace Variant

def description : Variant → String
  | .dx => "DevExpress MVVM (primary)."
  | .prism => "Prism."
  | .mvvmLight => "MVVM Light."
  | .none => "No recognized MVVM runtime is referenced."

def schema : Schema :=
  .described
    ("A supported MVVM framework ecosystem, or the no-framework default.\n\n" ++
      "\x60Dx\x60 is the primary variant: its attribute namespace doubles as the fallback " ++
      "attribute surface when nothing else is referenced.")
    (.oneOf (all.map fun v => .described v.description (.constant v.name)))

def schemaDocument : SchemaDocument := { title := "FrameworkVariant", schema }

end Variant

namespace DetectionConfig

def schema : Schema :=
  .described "Controls which framework variants the detector may report."
    (.record
      [("disabled_variants",
        .described "Variants treated as absent even when their marker type is referenced."
          (.withDefault (.list []) (.list (.reference "FrameworkVariant"))))])

def schemaDocument : SchemaDocument where
  title := "DetectionConfig"
  schema := schema
  definitions := [("FrameworkVariant", Variant.schema)]

end DetectionConfig

namespace TracingConfig

def schema : Schema :=
  .record
    [("filter",
      .described
        ("\x60EnvFilter\x60 directive string. Default: \"info\". " ++
          "\x60VMGEN_LOG\x60 overrides it.")
        (.withDefault .null (.plain [.text, .null]))),
      ("with_target",
        .described "Include the event target in formatted output. Default: true."
          (.withDefault .null (.plain [.boolean, .null])))]

def schemaDocument : SchemaDocument := { title := "TracingConfig", schema }

end TracingConfig

namespace Config

def schema : Schema :=
  .described "Top-level configuration aggregating all subsystem configs."
    (.record
      [("detection",
        .withDefault (.record [("disabled_variants", .list [])])
          (.allOf [.reference "DetectionConfig"])),
        ("tracing",
          .withDefault (.record [("filter", .null), ("with_target", .null)])
            (.allOf [.reference "TracingConfig"]))])

def schemaDocument : SchemaDocument where
  title := "VmgenConfig"
  schema := schema
  definitions :=
    [("DetectionConfig", DetectionConfig.schema), ("FrameworkVariant", Variant.schema),
      ("TracingConfig", TracingConfig.schema)]

end Config

end MvvmSymbols
