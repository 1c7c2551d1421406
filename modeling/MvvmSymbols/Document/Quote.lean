import MvvmSymbols.Document.Scan

/-!
Writing texts between quotes. Of the four kinds the plainest one is taken that
shows the text as it is; where none can, the text is written with escapes.
-/

namespace MvvmSymbols.Document

inductive QuoteStyle where
  | basic
  | literal
  | multiBasic
  | multiLiteral
deriving DecidableEq

def longestRun (x : Char) (cs : List Char) : Nat :=
  (cs.foldl (fun (longest, current) c =>
    if c = x then (max longest (current + 1), current + 1) else (longest, 0)) (0, 0)).1

/-- Controls that no kind of text can show: all but tabs and line feeds. -/
def isHiddenControl (c : Char) : Bool := (c < ' ' && c ≠ '\t' && c ≠ '\n') || c = '\x7f'

def QuoteStyle.choose (cs : List Char) : QuoteStyle :=
  let escapes := cs.any isHiddenControl
  let backslashes := cs.contains '\\'
  let newlines := cs.contains '\n'
  let single := longestRun '\'' cs
  let double := longestRun '"' cs
  if !escapes && !backslashes && double = 0 && !newlines then .basic
  else if !escapes && single = 0 && !newlines then .literal
  else if !escapes && !backslashes && double ≤ 2 then .multiBasic
  else if !escapes && single ≤ 2 then .multiLiteral
  else if newlines then .multiBasic
  else .basic

def hexDigit (n : Nat) : Char := (Nat.digitChar n).toUpper

/-- A character as an escape, if it cannot stand for itself between double quotes. -/
def escaped? (c : Char) : Option (List Char) :=
  if c = '\x08' then some ['\\', 'b']
  else if c = '\t' then some ['\\', 't']
  else if c = '\x0c' then some ['\\', 'f']
  else if c = '\r' then some ['\\', 'r']
  else if c = '\\' then some ['\\', '\\']
  else if c < ' ' ∨ c = '\x7f' then
    some ['\\', 'u', '0', '0', hexDigit (c.toNat / 16), hexDigit (c.toNat % 16)]
  else none

def escapeBasic (cs : List Char) : List Char :=
  cs.flatMap fun c =>
    if c = '"' then ['\\', '"']
    else if c = '\n' then ['\\', 'n']
    else (escaped? c).getD [c]

/-- Characters between double quotes over several lines. A quote may stand for
itself unless two stand right before it; an escape begins a new count. -/
def escapeMulti : Nat → List Char → List Char
  | _, [] => []
  | quotes, c :: cs =>
    if c = '"' then
      if quotes < 2 then '"' :: escapeMulti (quotes + 1) cs else '\\' :: '"' :: escapeMulti 0 cs
    else if c = '\n' then '\n' :: escapeMulti 0 cs
    else (escaped? c).getD [c] ++ escapeMulti 0 cs

/-- A text over several lines begins on a line of its own. -/
def leadingNewline (cs : List Char) : List Char := if cs.contains '\n' then ['\n'] else []

def QuoteStyle.write (cs : List Char) : QuoteStyle → List Char
  | .basic => ['"'] ++ escapeBasic cs ++ ['"']
  | .literal => ['\''] ++ cs ++ ['\'']
  | .multiBasic => ['"', '"', '"'] ++ leadingNewline cs ++ escapeMulti 0 cs ++ ['"', '"', '"']
  | .multiLiteral => ['\'', '\'', '\''] ++ leadingNewline cs ++ cs ++ ['\'', '\'', '\'']

def writeText (s : String) : List Char := (QuoteStyle.choose s.toList).write s.toList

end MvvmSymbols.Document
