/-!
Sets of characters as patterns name them: ranges, and what can be made of them.
Sets with a name are those of the first 128 characters.
-/

namespace MvvmSymbols.Text

inductive CharSet where
  | range (first last : Char)
  /-- A range without regard to case. -/
  | rangeAnyCase (first last : Char)
  | nothing
  | union (left right : CharSet)
  | complement (set : CharSet)
deriving DecidableEq

namespace CharSet

def contains : CharSet → Char → Bool
  | .range first last, c => first ≤ c && c ≤ last
  | .rangeAnyCase first last, c =>
    [c, c.toLower, c.toUpper].any fun d => first ≤ d && d ≤ last
  | .nothing, _ => false
  | .union left right, c => left.contains c || right.contains c
  | .complement set, c => !set.contains c

def single (c : Char) : CharSet := .range c c

def ofRanges (ranges : List (Char × Char)) : CharSet :=
  ranges.foldr (fun (first, last) set => .union (.range first last) set) .nothing

def inter (left right : CharSet) : CharSet :=
  .complement (.union (.complement left) (.complement right))

def diff (left right : CharSet) : CharSet := inter left (.complement right)

def symmDiff (left right : CharSet) : CharSet := .union (diff left right) (diff right left)

/-- The set without regard to case. A complement then leaves out in either case
what it left out. -/
def ignoringCase : CharSet → CharSet
  | .range first last => .rangeAnyCase first last
  | .union left right => .union left.ignoringCase right.ignoringCase
  | .complement set => .complement set.ignoringCase
  | set => set

def newline : CharSet := single '\n'

def digit : CharSet := .range '0' '9'

def lower : CharSet := .range 'a' 'z'

def upper : CharSet := .range 'A' 'Z'

def letter : CharSet := .union lower upper

def letterOrDigit : CharSet := .union letter digit

def word : CharSet := .union letterOrDigit (single '_')

def blank : CharSet := ofRanges [('\t', '\r'), (' ', ' ')]

def control : CharSet := ofRanges [('\x00', '\x1f'), ('\x7f', '\x7f')]

def mark : CharSet := ofRanges [('!', '/'), (':', '@'), ('[', '\x60'), ('\x7b', '~')]

/-- Marks that denote an operation, a relation or a currency. -/
def symbol : CharSet :=
  ofRanges [('$', '$'), ('+', '+'), ('<', '>'), ('^', '^'), ('\x60', '\x60'), ('|', '|'),
    ('~', '~')]

/-- The set that a name in brackets and colons denotes. -/
def ofName? : String → Option CharSet
  | "alnum" => some letterOrDigit
  | "alpha" => some letter
  | "ascii" => some (.range '\x00' '\x7f')
  | "blank" => some (ofRanges [('\t', '\t'), (' ', ' ')])
  | "cntrl" => some control
  | "digit" => some digit
  | "graph" => some (.range '!' '~')
  | "lower" => some lower
  | "print" => some (.range ' ' '~')
  | "punct" => some mark
  | "space" => some blank
  | "upper" => some upper
  | "word" => some word
  | "xdigit" => some (ofRanges [('0', '9'), ('A', 'F'), ('a', 'f')])
  | _ => none

/-- The set of a general category, by the first letter of its name. -/
def ofCategory? (c : Char) : Option CharSet :=
  match c.toUpper with
  | 'L' => some letter
  | 'M' => some .nothing
  | 'N' => some digit
  | 'P' => some (diff mark symbol)
  | 'S' => some symbol
  | 'Z' => some (single ' ')
  | 'C' => some control
  | _ => none

end CharSet

end MvvmSymbols.Text
