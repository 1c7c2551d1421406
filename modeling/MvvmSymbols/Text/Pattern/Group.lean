import MvvmSymbols.Text.Pattern.Token

/-!
Putting the tokens of a written pattern together, group by group. A change of
the rules of reading holds to the end of its group.
-/

namespace MvvmSymbols.Text.Pattern

/-- A part of a group. A change of rules keeps its place there: it cannot be
repeated. -/
inductive Part where
  | pattern (p : Pattern)
  | change

/-- A group that is not closed yet. -/
structure Group where
  rules : Rules
  /-- The alternatives before the last bar. -/
  before : Option Pattern := none
  /-- The parts since the last bar, the last one first. -/
  parts : List Part := []

namespace Group

def push (g : Group) (p : Pattern) : Group := { g with parts := .pattern p :: g.parts }

def toPattern (g : Group) : Pattern :=
  let last := g.parts.foldl (fun later part =>
    match part with
    | .pattern p => .seq p later
    | .change => later) .empty
  match g.before with
  | none => last
  | some before => .either before last

def bar (g : Group) : Group := { g with before := some g.toPattern, parts := [] }

end Group

def ofSet (rules : Rules) (set : CharSet) : Pattern :=
  .one (if Rule.anyCase ∈ rules then set.ignoringCase else set)

/-- A condition as it stands. Words are those of the first 128 characters, so
conditions on words need narrow sets. -/
def ofTest? (rules : Rules) (condition : PlaceTest) : Option Pattern :=
  if condition ∈ [.textStart, .textEnd] ∨ Rule.wide ∉ rules then some (.test condition) else none

def ofPoint (rules : Rules) : Pattern :=
  if Rule.pointsCoverAll ∈ rules then .one (.complement .nothing)
  else if Rule.carriageReturns ∈ rules then
    .one (.complement (.union .newline (.single '\r')))
  else .one (.complement .newline)

def withFrequency (p : Pattern) (greedy : Bool) : Frequency → Pattern
  | .any => .many greedy p
  | .atLeastOnce => .repeated greedy p
  | .atMostOnce => optional greedy p

/-- Adds a token to the innermost group; the groups around it are given from
the inside out. -/
def addToken (g : Group) (outer : List Group) : Token → Option (Group × List Group)
  | .atom (.character c) => some (g.push (ofSet g.rules (.single c)), outer)
  | .atom (.several set) => some (g.push (ofSet g.rules set), outer)
  | .atom (.test condition) => (ofTest? g.rules condition).map fun p => (g.push p, outer)
  | .point => some (g.push (ofPoint g.rules), outer)
  | .lineStart =>
    let condition :=
      if Rule.lines ∈ g.rules then .lineStart (Rule.carriageReturns ∈ g.rules) else .textStart
    some (g.push (.test condition), outer)
  | .lineEnd =>
    let condition :=
      if Rule.lines ∈ g.rules then .lineEnd (Rule.carriageReturns ∈ g.rules) else .textEnd
    some (g.push (.test condition), outer)
  | .bar => some (g.bar, outer)
  | .opening changes => some ({ rules := g.rules.change changes }, g :: outer)
  | .closing =>
    match outer with
    | [] => none
    | around :: outer => some (around.push g.toPattern, outer)
  | .rules changes =>
    some ({ g with rules := g.rules.change changes, parts := .change :: g.parts }, outer)
  | .repetition frequency plain =>
    match g.parts with
    | .pattern p :: parts =>
      let greedy := plain != decide (Rule.lazyFirst ∈ g.rules)
      some ({ g with parts := .pattern (withFrequency p greedy frequency) :: parts }, outer)
    | .change :: _ | [] => none

def readFrom (g : Group) (outer : List Group) (cs : List Char) : Option Pattern :=
  let spaced := decide (Rule.spaced ∈ g.rules)
  match skip spaced cs with
  | [] => if outer.isEmpty then some g.toPattern else none
  | start =>
    match readToken spaced start with
    | none => none
    | some (token, rest) =>
      match addToken g outer token with
      | none => none
      | some (g, outer) => if rest.length < cs.length then readFrom g outer rest else none
termination_by cs.length

def ofText? (text : String) : Option Pattern := readFrom { rules := [.wide] } [] text.toList

/-- What a reader of patterns says of a text that is not a pattern. Of a pattern
it says nothing. -/
abbrev Reader := String → Option String

/-- The reader at hand has the same words for every text that is not a pattern. -/
def reader : Reader := fun text =>
  if (ofText? text).isSome then none else some "error building NFA"

end MvvmSymbols.Text.Pattern
