import MvvmSymbols.Logging.Directive
import MvvmSymbols.Logging.Value

/-!
Filters: directives separated by commas, read strictly or leniently.

A directive that names a scope or a field speaks of the inside of scopes: what
lies in such a scope passes up to its threshold. A directive that names no scope
and asks for no value holds everywhere; among those of them that fit an event
the one with the longest target decides.
-/

namespace MvvmSymbols

/-- The texts of a filter's directives; nothing stands between two commas in a row. -/
def Filter.pieces (text : String) : List (List Char) :=
  (Text.split ',' text.toList).filter (!·.isEmpty)

def Filter.readAll (patterns : Text.Pattern.Reader) :
    List (List Char) → Except DirectiveFault (List Directive)
  | [] => .ok []
  | piece :: pieces => do
    let d ← Directive.ofText patterns piece
    let ds ← readAll patterns pieces
    return d :: ds

/-- Reads the pieces and passes over those that are not directives. A piece that
cannot be cut ends the reading here too. -/
def Filter.readValid (patterns : Text.Pattern.Reader) :
    List (List Char) → Except DirectiveFault (List Directive)
  | [] => .ok []
  | piece :: pieces =>
    match Directive.ofText patterns piece with
    | .ok d => do
      let ds ← readValid patterns pieces
      return d :: ds
    | .error .cutCharacter => .error .cutCharacter
    | .error _ => readValid patterns pieces

structure Filter where
  directives : List Directive
deriving DecidableEq

namespace Filter

/-- A filter without directives has the threshold `otherwise` for everything. -/
def ofDirectives (otherwise : Threshold) (ds : List Directive) : Filter :=
  ⟨if ds.isEmpty then [{ threshold := otherwise }] else ds⟩

/-- Read strictly, a filter without pieces lets nothing through. -/
def ofStrict (patterns : Text.Pattern.Reader) (text : String) : Except DirectiveFault Filter :=
  ofDirectives .off <$> readAll patterns (pieces text)

/-- Read leniently, a filter of which no piece is a directive lets errors through. -/
def ofLenient (patterns : Text.Pattern.Reader) (text : String) : Except DirectiveFault Filter :=
  ofDirectives (.upTo .error) <$> readValid patterns (pieces text)

/-- The filter in force: that of the environment where it is set and every piece
of it is a directive, else the configured one, read leniently. -/
def select (patterns : Text.Pattern.Reader) (environment : Option String) (configured : String) :
    Except DirectiveFault Filter :=
  match environment.map (ofStrict patterns) with
  | some (.ok filter) => .ok filter
  | some (.error .cutCharacter) => .error .cutCharacter
  | some (.error _) | none => ofLenient patterns configured

end Filter

namespace Directive

/-- It speaks of the inside of scopes. -/
def isScoped (d : Directive) : Bool := d.scope.isSome || d.field.isSome

/-- It holds in every scope and outside. -/
def isUnconditional (d : Directive) : Bool := d.scope.isNone && d.field.all (·.value.isNone)

def asksForValue (d : Directive) : Bool := d.field.any (·.value.isSome)

/-- What it speaks of, apart from how much passes. -/
def subject (d : Directive) : Option String × Option String × Option FieldMatch :=
  (d.target, d.scope, d.field)

def fitsTarget (d : Directive) (target : String) : Bool :=
  match d.target with
  | none => true
  | some t => t.toList.isPrefixOf target.toList

/-- It speaks of this scope, whatever the values of its fields are. -/
def concerns (d : Directive) (s : Scope) : Bool :=
  d.isScoped && d.fitsTarget s.target && d.scope.all (· = s.name) &&
    d.field.all fun f => s.fields.any (·.1 = f.name)

def isMetBy (d : Directive) (s : Scope) : Bool :=
  d.field.all fun f => f.value.all fun asked =>
    s.fields.any fun (name, value) => name = f.name && value.meets asked

def fitsEvent (d : Directive) (target : String) (fields : List String) : Bool :=
  d.isUnconditional && d.fitsTarget target && d.field.all (·.name ∈ fields)

/-- A longer target goes first, and any target before none. -/
def targetLength (d : Directive) : Nat :=
  match d.target with
  | none => 0
  | some t => t.utf8ByteSize + 1

/-- Whether the later directive `d` decides where `b` would: a longer target
goes first, then a field before none, then the greater name of a field. -/
def yieldsTo (b d : Directive) : Bool :=
  if b.targetLength = d.targetLength then
    match b.field, d.field with
    | none, _ => true
    | some _, none => false
    | some f, some g => f.name ≤ g.name
  else b.targetLength < d.targetLength

end Directive

namespace Filter

/-- Of the directives on one subject the last one. -/
def standing : List Directive → List Directive
  | [] => []
  | d :: ds => if ds.any (·.subject = d.subject) then standing ds else d :: standing ds

def inScopes (f : Filter) : List Directive := standing (f.directives.filter (·.isScoped))

def decisive? (ds : List Directive) : Option Directive :=
  ds.foldl (fun best d =>
    match best with
    | none => some d
    | some b => some (if b.yieldsTo d then d else b)) none

/-- What the decisive one of the directives that fit lets through. -/
def thresholdFor (f : Filter) (fits : Directive → Bool) : Threshold :=
  ((decisive? (f.directives.filter fits)).map (·.threshold)).getD .off

/-- The highest threshold that any directive may bring about. Values are known
only when a scope is there, so a directive that asks for one needs all scopes. -/
def reach (f : Filter) : Threshold :=
  if f.directives.any (·.asksForValue) then .upTo .trace
  else .highest (f.directives.map (·.threshold))

/-- Whether a scope that the ceiling admits is kept: a directive speaks of it,
or its level passes everywhere. Fields do not matter to the latter. -/
def keepsScope (f : Filter) (s : Scope) : Bool :=
  f.inScopes.any (·.concerns s) ||
    (f.thresholdFor fun d => d.isUnconditional && d.fitsTarget s.target).admits s.level

/-- What passes inside a scope because of it. -/
def thresholdInside (f : Filter) (s : Scope) : Threshold :=
  .highest ((f.inScopes.filter fun d => d.concerns s && d.isMetBy s).map (·.threshold))

def thresholdEverywhere (f : Filter) (e : Event) : Threshold :=
  f.thresholdFor (·.fitsEvent e.target ("message" :: e.fields.map (·.1)))

end Filter

end MvvmSymbols
