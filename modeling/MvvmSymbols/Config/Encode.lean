import MvvmSymbols.Config
import MvvmSymbols.Config.Failure
import MvvmSymbols.Document.Quote

/-!
Configurations as documents. Both groups of settings are always written; a
setting without a value is not. A value that is absent cannot be written, so it
depends on where it stands whether writing fails.
-/

namespace MvvmSymbols

inductive WriteFault where
  /-- There is no value. -/
  | absent
deriving DecidableEq

def WriteFault.message : WriteFault → String
  | .absent => "unsupported None value"

abbrev Written := Except WriteFault (List Char)

def writeOptional {α : Type} (write : α → List Char) : Option α → Written
  | some a => .ok (write a)
  | none => .error .absent

def writeBoolean (b : Bool) : List Char := (if b then "true" else "false").toList

/-- A list of variants: on one line if it has at most one item, else an item per line. -/
def writeVariants : List Variant → List Char
  | [] => "[]".toList
  | [v] => "[".toList ++ Document.writeText v.name ++ "]".toList
  | vs =>
    "[\n".toList ++
      vs.flatMap (fun v => "    ".toList ++ Document.writeText v.name ++ ",\n".toList) ++
      "]".toList

/-- A line for a setting. What is absent is left out here, and only here. -/
def writeSetting (name : String) : Written → Written
  | .ok value => .ok (name.toList ++ " = ".toList ++ value ++ "\n".toList)
  | .error .absent => .ok []

/-- It is no failure that a setting has no value. -/
theorem exists_writeSetting {α : Type} (name : String) (write : α → List Char)
    (value : Option α) : ∃ line, writeSetting name (writeOptional write value) = .ok line := by
  cases value with
  | none => exact ⟨[], rfl⟩
  | some a => exact ⟨_, rfl⟩

def DetectionConfig.write (c : DetectionConfig) : Written := do
  let variants ← writeSetting "disabled_variants" (.ok (writeVariants c.disabledVariants))
  return "[detection]\n".toList ++ variants

def TracingConfig.write (c : TracingConfig) : Written := do
  let filter ← writeSetting "filter" (writeOptional Document.writeText c.filter)
  let withTarget ← writeSetting "with_target" (writeOptional writeBoolean c.withTarget)
  return "[tracing]\n".toList ++ (filter ++ withTarget)

namespace Config

def write (c : Config) : Written := do
  let detection ← c.detection.write
  let tracing ← c.tracing.write
  return detection ++ '\n' :: tracing

def toText (c : Config) : Except ConfigError String :=
  (c.write.map String.ofList).mapError (.serialize ·.message)

theorem exists_write (c : Config) : ∃ text, c.write = .ok text := by
  obtain ⟨filter, hfilter⟩ := exists_writeSetting "filter" Document.writeText c.tracing.filter
  obtain ⟨withTarget, hwithTarget⟩ :=
    exists_writeSetting "with_target" writeBoolean c.tracing.withTarget
  have htracing : c.tracing.write = .ok ("[tracing]\n".toList ++ (filter ++ withTarget)) := by
    rw [TracingConfig.write, hfilter, hwithTarget]
    rfl
  rw [write, htracing]
  exact ⟨_, rfl⟩

/-- Nothing that a configuration can hold stops the writer. -/
theorem exists_toText (c : Config) : ∃ text, c.toText = .ok text := by
  obtain ⟨text, h⟩ := c.exists_write
  exact ⟨String.ofList text, by rw [toText, h]; rfl⟩

/-- The text itself, since writing does not fail. -/
def encode (c : Config) : String :=
  c.toText.toOption.get (by obtain ⟨text, h⟩ := c.exists_toText; rw [h]; rfl)

theorem toText_eq (c : Config) : c.toText = .ok c.encode := by
  obtain ⟨text, h⟩ := c.exists_toText
  simp [encode, h, Except.toOption]

theorem encode_eq {c : Config} {text : String} (h : c.toText = .ok text) : c.encode = text := by
  rw [toText_eq] at h
  exact Except.ok.inj h

end Config

end MvvmSymbols
