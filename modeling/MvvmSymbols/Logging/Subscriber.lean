import MvvmSymbols.Config
import MvvmSymbols.Logging.Filter
import MvvmSymbols.Text.Quoted

/-!
The subscriber: it writes a line for each event that its filter lets through.
A program has at most one; the first that is set up stays.
-/

namespace MvvmSymbols

structure Subscriber where
  filter : Filter
  withTarget : Bool
  /-- Scopes and events of a higher level are not even offered to the filter. -/
  ceiling : Threshold
deriving DecidableEq

def FieldValue.render : FieldValue → String
  | .plain text => text
  | .quoted text => Text.quoted text
  | .count n => toString n

def renderFields (fields : List (String × FieldValue)) : String :=
  " ".intercalate (fields.map fun (name, value) => name ++ "=" ++ value.render)

def Scope.render (s : Scope) : String :=
  s.name ++ "\x7b" ++ renderFields s.fields ++ "\x7d:"

namespace Subscriber

/-- A level's name, set to the right in five columns. -/
def column (level : Level) : String :=
  String.ofList (List.replicate (5 - level.name.length) ' ') ++ level.name

def scopesOf (s : Subscriber) (r : Record) : List Scope :=
  r.scopes.filter fun scope => s.ceiling.admits scope.level && s.filter.keepsScope scope

/-- Whether an event passes: everywhere, or inside one of its scopes. -/
def passes (s : Subscriber) (r : Record) : Bool :=
  s.ceiling.admits r.event.level &&
    ((s.filter.thresholdEverywhere r.event).admits r.event.level ||
      (s.scopesOf r).any fun scope => (s.filter.thresholdInside scope).admits r.event.level)

/-- The line of an event, without its time. -/
def line (s : Subscriber) (r : Record) : String :=
  let scopes := s.scopesOf r
  column r.event.level ++ " " ++
    (if scopes.isEmpty then "" else String.join (scopes.map Scope.render) ++ " ") ++
    (if s.withTarget then r.event.target ++ ": " else "") ++
    r.event.message ++
    (if r.event.fields.isEmpty then "" else " " ++ renderFields r.event.fields)

def lines (s : Subscriber) (rs : List Record) : List String :=
  (rs.filter s.passes).map s.line

def ofConfig (patterns : Text.Pattern.Reader) (environment : Option String) (c : TracingConfig) :
    Except DirectiveFault Subscriber := do
  let filter ← Filter.select patterns environment c.effectiveFilter
  return { filter, withTarget := c.effectiveWithTarget, ceiling := filter.reach }

/-- Sets up logging, and says whether this was the first time. A later attempt
changes the ceiling only: it is then as high as either filter asks for. -/
def install (environment : Option String) (c : TracingConfig) (current : Option Subscriber)
    (patterns : Text.Pattern.Reader := Text.Pattern.reader) :
    Except DirectiveFault (Bool × Option Subscriber) := do
  let subscriber ← ofConfig patterns environment c
  match current with
  | none => return (true, some subscriber)
  | some s => return (false, some { s with ceiling := s.filter.reach.max subscriber.filter.reach })

end Subscriber

end MvvmSymbols
