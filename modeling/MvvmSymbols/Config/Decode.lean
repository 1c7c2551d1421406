import MvvmSymbols.Config
import MvvmSymbols.Decimal.Shortest
import MvvmSymbols.Document
import MvvmSymbols.Document.Excerpt
import MvvmSymbols.Text.Quoted

/-!
Configurations from documents. Entries are looked at in the order of the
document, and those that a configuration does not have are passed over; the first
one that does not fit ends the decoding. A group of settings may also be written
as a list, its settings by position.
-/

namespace MvvmSymbols

open Document (Key Node Scalar Span)

/-- What stands in a document where something else is expected. -/
inductive Found where
  | integer (value : Int)
  | real (value : Decimal.Binary64)
  | boolean (value : Bool)
  | text (value : String)
  | sequence
  /-- A table, or a date or time. -/
  | map
deriving DecidableEq

namespace Found

def ofNode : Node → Found
  | .scalar _ (.text value) => .text value
  | .scalar _ (.integer value) => .integer value
  | .scalar _ (.real value) => .real value
  | .scalar _ (.boolean value) => .boolean value
  | .scalar _ .moment | .table .. => .map
  | .list .. | .series .. => .sequence

def render : Found → String
  | .integer value => "integer \x60" ++ toString value ++ "\x60"
  | .real value => "floating point \x60" ++ value.render ++ "\x60"
  | .boolean value => "boolean \x60" ++ (if value then "true" else "false") ++ "\x60"
  | .text value => "string " ++ Text.quoted value
  | .sequence => "sequence"
  | .map => "map"

end Found

inductive Expected where
  | detection
  | tracing
  | sequence
  | text
  | boolean
deriving DecidableEq

def Expected.render : Expected → String
  | .detection => "struct DetectionConfig"
  | .tracing => "struct TracingConfig"
  | .sequence => "a sequence"
  | .text => "a string"
  | .boolean => "a boolean"

/-- Why a part of a document fits no setting. -/
inductive Misfit where
  | wrongKind (found : Found) (expected : Expected)
  | unknownVariant (name : String)
  /-- A variant is a text, or a table whose one key is its name. -/
  | notAVariant
  | noKey
  | manyKeys
  /-- Nothing may be said of a variant beyond its name. -/
  | notEmptyTable
  | notEmptySeries
  | notATable (found : String)
deriving DecidableEq

def Misfit.message : Misfit → String
  | .wrongKind found expected =>
    "invalid type: " ++ found.render ++ ", expected " ++ expected.render
  | .unknownVariant name =>
    "unknown variant \x60" ++ name ++ "\x60, expected one of " ++
      ", ".intercalate (Variant.all.map fun v => "\x60" ++ v.name ++ "\x60")
  | .notAVariant => "wanted string or table"
  | .noKey => "wanted exactly 1 element, found 0 elements"
  | .manyKeys => "wanted exactly 1 element, more than 1 element"
  | .notEmptyTable => "expected empty table"
  | .notEmptySeries => "expected empty array"
  | .notATable found => "expected table, found " ++ found

/-- A misfit and its place, where the part in question has one. -/
structure Complaint where
  misfit : Misfit
  span : Option Span
deriving DecidableEq

/-- A complaint without a place of its own gets the place of what lies around it. -/
def Complaint.within (span : Option Span) (c : Complaint) : Complaint :=
  { c with span := c.span.or span }

abbrev Decoded := Except Complaint

/-- Decodes the value of an entry; its key marks the place of a value that has none. -/
def decodeValue {α : Type} (decode : Node → Decoded α) (key : Key) (value : Node) : Decoded α :=
  (decode value).mapError (·.within (value.span?.or (some key.span)))

def wrongKind {α : Type} (n : Node) (expected : Expected) : Decoded α :=
  .error ⟨.wrongKind (.ofNode n) expected, n.span?⟩

def decodeText (n : Node) : Decoded String :=
  match n with
  | .scalar _ (.text value) => .ok value
  | _ => wrongKind n .text

def decodeBoolean (n : Node) : Decoded Bool :=
  match n with
  | .scalar _ (.boolean value) => .ok value
  | _ => wrongKind n .boolean

namespace Variant

def decodeName (name : String) (span : Option Span) : Decoded Variant :=
  match ofName? name with
  | .some v => .ok v
  | .none => .error ⟨.unknownVariant name, span⟩

def kindName : Scalar → String
  | .text _ => "string"
  | .integer _ => "integer"
  | .real _ => "float"
  | .boolean _ => "boolean"
  | .moment => "datetime"

/-- What stands under a variant's name has to be empty. -/
def decodeNothing : Node → Decoded Unit
  | .list _ [] | .series _ [] | .table _ _ [] => .ok ()
  | .list span _ => .error ⟨.notEmptyTable, span⟩
  | .series span _ => .error ⟨.notEmptySeries, span⟩
  | .table _ span _ => .error ⟨.notEmptyTable, span⟩
  | .scalar span value => .error ⟨.notATable (kindName value), span⟩

def decodeForm : Node → Decoded Variant
  | .scalar span (.text name) => decodeName name span
  | .table _ span [] => .error ⟨.noKey, span⟩
  | .table _ _ [(key, value)] => do
    let v ← decodeName key.name key.span
    decodeNothing value
    return v
  | .table _ span _ => .error ⟨.manyKeys, span⟩
  | n => .error ⟨.notAVariant, n.span?⟩

def decode (n : Node) : Decoded Variant := (decodeForm n).mapError (·.within n.span?)

end Variant

def decodeVariants (n : Node) : Decoded (List Variant) :=
  match n with
  | .list _ items | .series _ items => items.mapM Variant.decode
  | _ => wrongKind n .sequence

namespace DetectionConfig

def decodeEntries : List (Key × Node) → DetectionConfig → Decoded DetectionConfig
  | [], c => .ok c
  | (key, value) :: entries, c => do
    let c ←
      if key.name = "disabled_variants" then
        (decodeValue decodeVariants key value).map ({ c with disabledVariants := · })
      else pure c
    decodeEntries entries c

def decode (n : Node) : Decoded DetectionConfig :=
  match n with
  | .table _ _ entries => decodeEntries entries {}
  | .list _ items | .series _ items =>
    match items with
    | [] => .ok {}
    | variants :: _ => (decodeVariants variants).map (⟨·⟩)
  | .scalar _ .moment => .ok {}
  | .scalar .. => wrongKind n .detection

end DetectionConfig

namespace TracingConfig

def decodeEntries : List (Key × Node) → TracingConfig → Decoded TracingConfig
  | [], c => .ok c
  | (key, value) :: entries, c => do
    let c ←
      if key.name = "filter" then
        (decodeValue decodeText key value).map ({ c with filter := some · })
      else if key.name = "with_target" then
        (decodeValue decodeBoolean key value).map ({ c with withTarget := some · })
      else pure c
    decodeEntries entries c

def decode (n : Node) : Decoded TracingConfig :=
  match n with
  | .table _ _ entries => decodeEntries entries {}
  | .list _ items | .series _ items =>
    match items with
    | [] => .ok {}
    | [filter] => do
      let filter ← decodeText filter
      return { filter := some filter }
    | filter :: withTarget :: _ => do
      let filter ← decodeText filter
      let withTarget ← decodeBoolean withTarget
      return { filter := some filter, withTarget := some withTarget }
  | .scalar _ .moment => .ok {}
  | .scalar .. => wrongKind n .tracing

end TracingConfig

namespace Config

def decodeEntries : List (Key × Node) → Config → Decoded Config
  | [], c => .ok c
  | (key, value) :: entries, c => do
    let c ←
      if key.name = "detection" then
        (decodeValue DetectionConfig.decode key value).map ({ c with detection := · })
      else if key.name = "tracing" then
        (decodeValue TracingConfig.decode key value).map ({ c with tracing := · })
      else pure c
    decodeEntries entries c

def decode (t : Document.Table) : Decoded Config := decodeEntries t.entries {}

end Config

end MvvmSymbols
