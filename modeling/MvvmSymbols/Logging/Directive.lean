import MvvmSymbols.Logging.Value
import MvvmSymbols.Text.Alphanumeric
import MvvmSymbols.Text.Blank
import MvvmSymbols.Text.Split

/-!
Filter directives, such as `info`, `vmgen_resolve=debug` or
`vmgen_resolve[generation_pass]=trace`.

A directive is scanned without the white space around it, but its parts are cut
from the text with that white space, at the byte offsets of the scan. So white
space in front shifts every part, and where it shifts a cut into the middle of a
character the part does not exist.

The value that a field is asked for is a truth value, a number or a pattern. Which
texts are patterns is for a reader of patterns to say, and a directive that asks for
anything else is none.
-/

namespace MvvmSymbols

/-- How much a directive lets through: nothing, or events up to a level. -/
inductive Threshold where
  | off
  | upTo (level : Level)
deriving DecidableEq

namespace Threshold

def verbosity : Threshold → Nat
  | .off => 0
  | .upTo level => level.verbosity

def admits (t : Threshold) (level : Level) : Bool := level.verbosity ≤ t.verbosity

def max (a b : Threshold) : Threshold := if a.verbosity ≤ b.verbosity then b else a

/-- The least threshold that lets through what any of these does. -/
def highest (ts : List Threshold) : Threshold := ts.foldl max .off

def ofVerbosity? : Nat → Option Threshold
  | 0 => some .off
  | 1 => some (.upTo .error)
  | 2 => some (.upTo .warn)
  | 3 => some (.upTo .info)
  | 4 => some (.upTo .debug)
  | 5 => some (.upTo .trace)
  | _ => none

def number? (cs : List Char) : Option Nat :=
  let digits := match cs with
    | '+' :: rest => rest
    | _ => cs
  if digits ≠ [] ∧ digits.all (·.isDigit) then
    some (digits.foldl (fun n c => 10 * n + (c.toNat - '0'.toNat)) 0)
  else none

/-- A level by number or by name in any case; nothing at all is `error`. -/
def ofText? (cs : List Char) : Option Threshold :=
  match (number? cs).bind ofVerbosity? with
  | some t => some t
  | none =>
    match String.ofList (cs.map Char.toLower) with
    | "" | "error" => some (.upTo .error)
    | "off" => some .off
    | "warn" => some (.upTo .warn)
    | "info" => some (.upTo .info)
    | "debug" => some (.upTo .debug)
    | "trace" => some (.upTo .trace)
    | _ => none

end Threshold

/-- A condition on a field: its name, and perhaps what its value has to be. -/
structure FieldMatch where
  name : String
  value : Option String
deriving DecidableEq

structure Directive where
  target : Option String := none
  scope : Option String := none
  field : Option FieldMatch := none
  threshold : Threshold := .upTo .trace
deriving DecidableEq

inductive DirectiveFault where
  | malformed
  /-- What stands after the equals sign is not a level. -/
  | badLevel
  /-- A field is asked for what is not a value, with what is said against it. -/
  | badValue (complaint : String)
  /-- A part would begin or end inside a character. -/
  | cutCharacter
deriving DecidableEq

/-- The value stands between the first equals sign and the next one. -/
def FieldMatch.ofText (patterns : Text.Pattern.Reader) (cs : List Char) :
    Except DirectiveFault FieldMatch :=
  match Text.split '=' cs with
  | name :: value :: _ =>
    match valueComplaint? patterns (String.ofList value) with
    | some complaint => .error (.badValue complaint)
    | none => .ok ⟨String.ofList name, some (String.ofList value)⟩
  | parts => .ok ⟨String.ofList parts.flatten, none⟩

namespace Directive

/-- Where the scan is. A number is the offset at which the current part begins. -/
inductive Place where
  | start
  | levelOrTarget (start : Nat)
  | scope (start : Nat)
  | field (start : Nat)
  | afterField
  | afterScope
  | level (start : Nat)

/-- A part of the text, by the offsets of the scan. -/
def part (text : List Char) (start stop : Nat) : Except DirectiveFault (List Char) :=
  match Text.slice? text start stop with
  | some cs => .ok cs
  | none => .error .cutCharacter

def beginsName (c : Char) : Bool := c = '-' || c = ':' || c = '_' || Text.isAlphanumeric c

/-- Goes past the character `c` at offset `i` of the scan. -/
def advance (patterns : Text.Pattern.Reader) (text : List Char) (d : Directive) (i : Nat)
    (c : Char) : Place → Except DirectiveFault (Directive × Place)
  | .start =>
    if c = '[' then .ok (d, .scope (i + 1))
    else if beginsName c then .ok (d, .levelOrTarget i)
    else .error .malformed
  | .levelOrTarget start =>
    if c = '=' ∨ c = '[' then do
      let target ← part text start i
      return ({ d with target := some (String.ofList target) },
        if c = '=' then .level (i + 1) else .scope (i + 1))
    else .ok (d, .levelOrTarget start)
  | .scope start =>
    if c = ']' then do
      let scope ← part text start i
      return ({ d with scope := some (String.ofList scope) }, .afterScope)
    else if c = '\x7b' then do
      let scope ← part text start i
      return ({ d with scope := if scope.isEmpty then none else some (String.ofList scope) },
        .field (i + 1))
    else .ok (d, .scope start)
  | .field start =>
    if c = '\x7d' then do
      let field ← part text start i
      if field.isEmpty then throw .malformed
      let field ← FieldMatch.ofText patterns field
      return ({ d with field := some field }, .afterField)
    else .ok (d, .field start)
  | .afterField => if c = ']' then .ok (d, .afterScope) else .error .malformed
  | .afterScope => if c = '=' then .ok (d, .level (i + 1)) else .error .malformed
  | .level start => .ok (d, .level start)

/-- At the end of the scan: the last part runs to the end of the text. -/
def finish (text : List Char) (d : Directive) : Place → Except DirectiveFault Directive
  | .levelOrTarget start => do
    let rest ← part text start (Text.byteLength text)
    match Threshold.ofText? rest with
    | some threshold => return { d with target := none, threshold }
    | none => return { d with target := some (String.ofList rest), threshold := .upTo .trace }
  | .level start => do
    let rest ← part text start (Text.byteLength text)
    if rest.isEmpty then return { d with threshold := .upTo .trace }
    match Threshold.ofText? rest with
    | some threshold => return { d with threshold }
    | none => throw .badLevel
  | .afterScope => return d
  | .start | .scope _ | .field _ | .afterField => throw .malformed

def scanFrom (patterns : Text.Pattern.Reader) (text : List Char) (d : Directive) (i : Nat) :
    Place → List Char → Except DirectiveFault Directive
  | place, [] => finish text d place
  | place, c :: cs =>
    match advance patterns text d i c place with
    | .ok (d, place) => scanFrom patterns text d (i + c.utf8Size) place cs
    | .error fault => .error fault

def ofText (patterns : Text.Pattern.Reader) (text : List Char) : Except DirectiveFault Directive :=
  scanFrom patterns text {} 0 .start (Text.trim text)

end Directive

end MvvmSymbols
