import MvvmSymbols.Text.Pattern.Escape

/-!
Sets between brackets, such as `[a-z_]`, `[^[:digit:]#]` or `[a-z&&[^o]]`. Sets
may stand in sets. Operations between sets bind less than standing side by side
and are carried out from left to right.
-/

namespace MvvmSymbols.Text.Pattern

inductive SetOperation where
  | inter
  | diff
  | symmDiff
deriving DecidableEq

def SetOperation.apply : SetOperation → CharSet → CharSet → CharSet
  | .inter => .inter
  | .diff => .diff
  | .symmDiff => .symmDiff

/-- A set whose bracket is not closed yet. -/
structure OpenSet where
  negated : Bool
  /-- What stands before the last operation, and the operation. -/
  before : Option (CharSet × SetOperation) := none
  /-- The members since then. -/
  members : CharSet := .nothing
  /-- Whether there have been no members but hyphens. -/
  fresh : Bool := true

namespace OpenSet

def add (s : OpenSet) (set : CharSet) : OpenSet :=
  { s with members := .union s.members set, fresh := false }

/-- A hyphen in front of all other members is a member. -/
def addHyphen (s : OpenSet) : OpenSet := { s.add (.single '-') with fresh := true }

def value (s : OpenSet) : CharSet :=
  match s.before with
  | none => s.members
  | some (left, operation) => operation.apply left s.members

def operate (s : OpenSet) (operation : SetOperation) : OpenSet :=
  { s with before := some (s.value, operation), members := .nothing, fresh := false }

def close (s : OpenSet) : CharSet := if s.negated then .complement s.value else s.value

end OpenSet

def readOpening (spaced : Bool) (cs : List Char) : OpenSet × List Char :=
  match skip spaced cs with
  | '^' :: rest => ({ negated := true }, rest)
  | rest => ({ negated := false }, rest)

/-- The name of a set and the rest, after a bracket and a colon. -/
def readSetName (cs : List Char) : Option (CharSet × List Char) :=
  let (negated, cs) :=
    match cs with
    | '^' :: rest => (true, rest)
    | _ => (false, cs)
  match cs.dropWhile (· ≠ ':') with
  | ':' :: ']' :: rest =>
    (CharSet.ofName? (String.ofList (cs.takeWhile (· ≠ ':')))).map fun set =>
      (if negated then .complement set else set, rest)
  | _ => none

def readMember (spaced : Bool) : List Char → Option (Atom × List Char)
  | '\\' :: rest => readEscape spaced rest
  | c :: rest => some (.character c, rest)
  | [] => none

/-- A member or a range in a set. A hyphen before the closing bracket or
another hyphen makes no range. -/
def readSpan (spaced : Bool) (cs : List Char) : Option (CharSet × List Char) := do
  let (atom, rest) ← readMember spaced cs
  let upper? :=
    match skip spaced rest with
    | '-' :: rest =>
      match skip spaced rest with
      | ']' :: _ | '-' :: _ => none
      | upper => some upper
    | _ => none
  match atom, upper? with
  | .character c, none => return (.single c, rest)
  | .several set, none => return (set, rest)
  | .character first, some upper =>
    match ← readMember spaced upper with
    | (.character last, rest) => if first ≤ last then return (.range first last, rest) else none
    | _ => none
  | _, _ => none

/-- One step through a set: either it goes on or the outermost bracket is
closed. The sets around the innermost one are given from the inside out. A
closing bracket in first place is a member. -/
def readSetStep (spaced : Bool) (s : OpenSet) (outer : List OpenSet) :
    List Char → Option ((OpenSet × List OpenSet ⊕ CharSet) × List Char)
  | ']' :: rest =>
    if s.fresh ∧ s.members = .nothing then some (.inl (s.add (.single ']'), outer), rest)
    else
      match outer with
      | [] => some (.inr s.close, rest)
      | around :: outer => some (.inl (around.add s.close, outer), rest)
  | '&' :: '&' :: rest => some (.inl (s.operate .inter, outer), rest)
  | '~' :: '~' :: rest => some (.inl (s.operate .symmDiff, outer), rest)
  | '-' :: rest =>
    if s.fresh then some (.inl (s.addHyphen, outer), rest)
    else
      match rest with
      | '-' :: rest => some (.inl (s.operate .diff, outer), rest)
      | _ => (readSpan spaced ('-' :: rest)).map fun (set, rest) => (.inl (s.add set, outer), rest)
  | '[' :: rest =>
    let named :=
      match rest with
      | ':' :: name => readSetName name
      | _ => none
    match named with
    | some (set, rest) => some (.inl (s.add set, outer), rest)
    | none =>
      let (inner, rest) := readOpening spaced rest
      some (.inl (inner, s :: outer), rest)
  | cs => (readSpan spaced cs).map fun (set, rest) => (.inl (s.add set, outer), rest)

def readSetFrom (spaced : Bool) (s : OpenSet) (outer : List OpenSet) (cs : List Char) :
    Option (CharSet × List Char) :=
  match readSetStep spaced s outer (skip spaced cs) with
  | none => none
  | some (.inr set, rest) => some (set, rest)
  | some (.inl (s, outer), rest) =>
    if rest.length < cs.length then readSetFrom spaced s outer rest else none
termination_by cs.length

def readSet (spaced : Bool) (cs : List Char) : Option (CharSet × List Char) :=
  let (s, rest) := readOpening spaced cs
  readSetFrom spaced s [] rest

end MvvmSymbols.Text.Pattern
