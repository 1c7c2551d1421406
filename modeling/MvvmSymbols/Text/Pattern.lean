import MvvmSymbols.Text.CharSet

/-!
Patterns for texts: characters of a set, conditions on a place, sequences,
alternatives, repetitions. How texts are matched is the matter of automata.
-/

namespace MvvmSymbols.Text

/-- A condition on the characters before and after a place, of which there is
none at the ends of a text. -/
inductive PlaceTest where
  | textStart
  | textEnd
  /-- Lines end with a line feed, or also with a carriage return or with both. -/
  | lineStart (carriageReturns : Bool)
  | lineEnd (carriageReturns : Bool)
  | wordBoundary
  | noWordBoundary
  | wordStart
  | wordEnd
deriving DecidableEq

namespace PlaceTest

def inWord (c : Option Char) : Bool := c.any CharSet.word.contains

def holds (before after : Option Char) : PlaceTest → Bool
  | .textStart => before.isNone
  | .textEnd => after.isNone
  | .lineStart false => before.all (· = '\n')
  | .lineStart true => before.all fun c => c = '\n' || (c = '\r' && after ≠ some '\n')
  | .lineEnd false => after.all (· = '\n')
  | .lineEnd true => after.all fun c => c = '\r' || (c = '\n' && before ≠ some '\r')
  | .wordBoundary => inWord before != inWord after
  | .noWordBoundary => inWord before == inWord after
  | .wordStart => !inWord before && inWord after
  | .wordEnd => inWord before && !inWord after

end PlaceTest

inductive Pattern where
  | empty
  | one (set : CharSet)
  | test (condition : PlaceTest)
  | seq (first second : Pattern)
  /-- The left alternative is preferred. -/
  | either (left right : Pattern)
  /-- At least one round; a greedy repetition prefers more of them. -/
  | repeated (greedy : Bool) (body : Pattern)
  /-- Any number of rounds, none included. -/
  | many (greedy : Bool) (body : Pattern)
deriving DecidableEq

namespace Pattern

def optional (greedy : Bool) (p : Pattern) : Pattern :=
  if greedy then .either p .empty else .either .empty p

/-- Whether there is no need to take a character, whatever the conditions. -/
def mayTakeNothing : Pattern → Bool
  | .empty | .test _ | .many .. => true
  | .one _ => false
  | .seq first second => first.mayTakeNothing && second.mayTakeNothing
  | .either left right => left.mayTakeNothing || right.mayTakeNothing
  | .repeated _ body => body.mayTakeNothing

end Pattern

end MvvmSymbols.Text
