import MvvmSymbols.Text.Pattern

/-!
Matching by an automaton. Its threads go through a text side by side, in order
of preference: those that began earlier first, then as the pattern prefers. Of
threads that come to one state at one place only the first goes on. A thread
that accepts ends all threads after it, so a match that one of them might find
later is not found.

A text fits a pattern if a thread accepts at the end of the text. So `ab` fits
`b`, which a later thread finds, and does not fit `a|ab`.
-/

namespace MvvmSymbols.Text.Pattern

inductive State where
  /-- Takes a character of the set. -/
  | take (set : CharSet) (next : Nat)
  | check (condition : PlaceTest) (next : Nat)
  /-- Goes on both ways, the first one preferred. -/
  | fork (first second : Nat)
  | accept
deriving DecidableEq

abbrev Automaton := Array State

namespace Automaton

def choice (greedy : Bool) (more done : Nat) : State :=
  if greedy then .fork more done else .fork done more

/-- Adds the states of a pattern after which `next` follows, and gives the state
that begins it. Behind a round there is a choice between another one and `next`.
If a round always takes something, the same choice stands before the first one.
Otherwise that is a choice of its own: a round that took nothing has to get past
the choice behind it. -/
def add : Pattern → Nat → Automaton → Nat × Automaton
  | .empty, next, m => (next, m)
  | .one set, next, m => (m.size, m.push (.take set next))
  | .test condition, next, m => (m.size, m.push (.check condition next))
  | .seq first second, next, m =>
    let (q, m) := add second next m
    add first q m
  | .either left right, next, m =>
    let (l, m) := add left next m
    let (r, m) := add right next m
    (m.size, m.push (.fork l r))
  | .repeated greedy body, next, m =>
    let behind := m.size
    let (q, m) := add body behind (m.push .accept)
    (q, m.setIfInBounds behind (choice greedy q next))
  | .many greedy body, next, m =>
    let behind := m.size
    let (q, m) := add body behind (m.push .accept)
    let m := m.setIfInBounds behind (choice greedy q next)
    if body.mayTakeNothing then (m.size, m.push (choice greedy q next)) else (behind, m)

/-- The automaton that seeks a pattern from every place on, and where it starts. -/
def ofPattern (p : Pattern) : Nat × Automaton :=
  add (.seq (.many false (.one (.complement .nothing))) p) 0 #[.accept]

/-- The states seen so far and those that can be reached from `q` without taking
a character, in order of preference. Each step goes to a new state, so as many
steps as there are states suffice. -/
def reach (m : Automaton) (before after : Option Char) : Nat → List Nat → Nat → List Nat
  | 0, seen, _ => seen
  | steps + 1, seen, q =>
    if q ∈ seen then seen
    else
      let seen := seen ++ [q]
      match m[q]? with
      | some (.fork first second) =>
        reach m before after steps (reach m before after steps seen first) second
      | some (.check condition next) =>
        if condition.holds before after then reach m before after steps seen next else seen
      | some (.take ..) | some .accept | none => seen

def reachAll (m : Automaton) (before after : Option Char) (threads : List Nat) : List Nat :=
  threads.foldl (reach m before after m.size) []

def isAccepting (m : Automaton) (q : Nat) : Bool := m[q]? = some .accept

def afterTaking (m : Automaton) (c : Char) (q : Nat) : Option Nat :=
  match m[q]? with
  | some (.take set next) => if set.contains c then some next else none
  | _ => none

/-- Whether a thread accepts at the end of a text. -/
def run (m : Automaton) (before : Option Char) (threads : List Nat) : List Char → Bool
  | [] => (m.reachAll before none threads).any m.isAccepting
  | c :: cs =>
    let reached := (m.reachAll before (some c) threads).takeWhile (!m.isAccepting ·)
    m.run (some c) (reached.filterMap (m.afterTaking c)) cs

end Automaton

def fits (p : Pattern) (text : List Char) : Bool :=
  let (start, m) := Automaton.ofPattern p
  m.run none [start] text

end MvvmSymbols.Text.Pattern
