import MvvmSymbols.Text.Pattern.Brackets

/-!
The tokens of a written pattern: sets and conditions, bars, the marks that open
and close groups, marks of repetition, and changes of the rules of reading.
-/

namespace MvvmSymbols.Text.Pattern

inductive Rule where
  | anyCase
  /-- The ends of lines count as the ends of the text do. -/
  | lines
  | carriageReturns
  /-- A point covers the ends of lines, too. -/
  | pointsCoverAll
  /-- Plain repetitions are lazy, and lazy ones are not. -/
  | lazyFirst
  /-- White space and comments in the pattern do not count. -/
  | spaced
  /-- Sets with a name go beyond the first 128 characters. -/
  | wide
deriving DecidableEq

abbrev Rules := List Rule

def Rules.change (rules : Rules) (changes : List (Rule × Bool)) : Rules :=
  changes.foldl (fun rules (rule, on) =>
    if on then rule :: rules else rules.filter (· ≠ rule)) rules

inductive Frequency where
  | any
  | atLeastOnce
  | atMostOnce
deriving DecidableEq

inductive Token where
  | atom (a : Atom)
  | point
  | lineStart
  | lineEnd
  | bar
  | opening (changes : List (Rule × Bool))
  | closing
  /-- Changes rules for the rest of the group. -/
  | rules (changes : List (Rule × Bool))
  | repetition (frequency : Frequency) (plain : Bool)

def Rule.ofLetter? : Char → Option Rule
  | 'i' => some .anyCase
  | 'm' => some .lines
  | 'R' => some .carriageReturns
  | 's' => some .pointsCoverAll
  | 'U' => some .lazyFirst
  | 'u' => some .wide
  | 'x' => some .spaced
  | _ => none

/-- Letters that switch rules on, after a hyphen off, up to the mark that ends
them. -/
def readChanges (on : Bool) : List Char → Option (List (Rule × Bool) × Char × List Char)
  | [] => none
  | c :: rest =>
    if c = ':' ∨ c = ')' then some ([], c, rest)
    else if c = '-' then if on then readChanges false rest else none
    else do
      let rule ← Rule.ofLetter? c
      let (changes, final, rest) ← readChanges on rest
      return ((rule, on) :: changes, final, rest)

/-- What follows an opening parenthesis. A group may have a name. -/
def readGroup (cs : List Char) : Option (Token × List Char) :=
  match cs with
  | '?' :: 'P' :: '<' :: rest | '?' :: '<' :: rest =>
    match rest.dropWhile (· ≠ '>') with
    | _ :: rest => some (.opening [], rest)
    | [] => none
  | '?' :: rest => do
    let (changes, final, rest) ← readChanges true rest
    if final = ':' then return (.opening changes, rest)
    else if changes.isEmpty then none
    else return (.rules changes, rest)
  | _ => some (.opening [], cs)

/-- A mark of repetition; a question mark behind it makes it a lazy one. -/
def readRepetition (frequency : Frequency) : List Char → Token × List Char
  | '?' :: rest => (.repetition frequency false, rest)
  | rest => (.repetition frequency true, rest)

def readToken (spaced : Bool) : List Char → Option (Token × List Char)
  | '\\' :: rest => (readEscape spaced rest).map fun (atom, rest) => (.atom atom, rest)
  | '[' :: rest => (readSet spaced rest).map fun (set, rest) => (.atom (.several set), rest)
  | '(' :: rest => readGroup (skip spaced rest)
  | ')' :: rest => some (.closing, rest)
  | '|' :: rest => some (.bar, rest)
  | '.' :: rest => some (.point, rest)
  | '^' :: rest => some (.lineStart, rest)
  | '$' :: rest => some (.lineEnd, rest)
  | '*' :: rest => some (readRepetition .any rest)
  | '+' :: rest => some (readRepetition .atLeastOnce rest)
  | '?' :: rest => some (readRepetition .atMostOnce rest)
  | '\x7b' :: _ | [] => none
  | c :: rest => some (.atom (.character c), rest)

end MvvmSymbols.Text.Pattern
