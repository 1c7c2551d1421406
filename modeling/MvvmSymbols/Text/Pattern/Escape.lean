import MvvmSymbols.Text.Blank
import MvvmSymbols.Text.Pattern

/-!
The small parts of written patterns: escapes, and the white space and comments
that a spaced pattern may hold.
-/

namespace MvvmSymbols.Text.Pattern

/-- Skips white space and comments. The flag says whether a comment is open. -/
def skipSpacing : Bool → List Char → List Char
  | true, c :: rest => skipSpacing (c ≠ '\n') rest
  | false, c :: rest =>
    if c = '#' then skipSpacing true rest
    else if isBlank c then skipSpacing false rest
    else c :: rest
  | _, [] => []

/-- Skips what does not count in front of a text. -/
def skip (spaced : Bool) (cs : List Char) : List Char := if spaced then skipSpacing false cs else cs

/-- A part of a pattern that cannot be taken apart. -/
inductive Atom where
  | character (c : Char)
  | several (set : CharSet)
  | test (condition : PlaceTest)

def hexDigit? (c : Char) : Option Nat :=
  if c.isDigit then some (c.toNat - '0'.toNat)
  else if 'a' ≤ c ∧ c ≤ 'f' then some (c.toNat - 'a'.toNat + 10)
  else if 'A' ≤ c ∧ c ≤ 'F' then some (c.toNat - 'A'.toNat + 10)
  else none

/-- The character whose number is written with so many digits in base 16. -/
def readCode (spaced : Bool) : Nat → Nat → List Char → Option (Atom × List Char)
  | 0, n, cs => if n.isValidChar then some (.character (.ofNat n), cs) else none
  | digits + 1, n, cs =>
    match skip spaced cs with
    | c :: rest => (hexDigit? c).bind fun d => readCode spaced digits (16 * n + d) rest
    | [] => none

def escapedLetter? : Char → Option Atom
  | 'd' => some (.several .digit)
  | 'D' => some (.several (.complement .digit))
  | 's' => some (.several .blank)
  | 'S' => some (.several (.complement .blank))
  | 'w' => some (.several .word)
  | 'W' => some (.several (.complement .word))
  | 'a' => some (.character '\x07')
  | 'f' => some (.character '\x0c')
  | 'n' => some (.character '\n')
  | 'r' => some (.character '\r')
  | 't' => some (.character '\t')
  | 'v' => some (.character '\x0b')
  | 'A' => some (.test .textStart)
  | 'z' => some (.test .textEnd)
  | 'b' => some (.test .wordBoundary)
  | 'B' => some (.test .noWordBoundary)
  | '<' => some (.test .wordStart)
  | '>' => some (.test .wordEnd)
  | _ => none

/-- An escape after its backslash. A mark stands for itself. -/
def readEscape (spaced : Bool) : List Char → Option (Atom × List Char)
  | 'x' :: rest => readCode spaced 2 0 rest
  | 'u' :: rest => readCode spaced 4 0 rest
  | 'U' :: rest => readCode spaced 8 0 rest
  | 'p' :: rest =>
    match skip spaced rest with
    | c :: rest => (CharSet.ofCategory? c).map fun set => (.several set, rest)
    | [] => none
  | 'P' :: rest =>
    match skip spaced rest with
    | c :: rest => (CharSet.ofCategory? c).map fun set => (.several (.complement set), rest)
    | [] => none
  | c :: rest =>
    match escapedLetter? c with
    | some atom => some (atom, rest)
    | none => if c.toNat < 128 && !c.isAlphanum then some (.character c, rest) else none
  | [] => none

end MvvmSymbols.Text.Pattern
