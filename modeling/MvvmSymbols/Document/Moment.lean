import MvvmSymbols.Document.Scan

/-!
Dates and times. Only whether one is written matters, so readers give back the
rest of the text alone. A day has to exist in its month, and a second may be 60.
-/

namespace MvvmSymbols.Document

def readDigits : Nat → Reader Nat
  | 0, cs => some (0, cs)
  | n + 1, c :: cs =>
    if c.isDigit then
      (readDigits n cs).map fun (value, rest) =>
        ((c.toNat - '0'.toNat) * Nat.pow 10 n + value, rest)
    else none
  | _ + 1, [] => none

def readTwo? (first last : Nat) (cs : List Char) : Option (List Char) :=
  match readDigits 2 cs with
  | some (value, rest) => if first ≤ value ∧ value ≤ last then some rest else none
  | none => none

def readChar? (c : Char) : List Char → Option (List Char)
  | d :: rest => if d = c then some rest else none
  | [] => none

def isLeap (year : Nat) : Bool := year % 4 = 0 && (year % 100 ≠ 0 || year % 400 = 0)

def daysIn (year month : Nat) : Nat :=
  if month = 2 then if isLeap year then 29 else 28
  else if month = 4 ∨ month = 6 ∨ month = 9 ∨ month = 11 then 30
  else 31

def readDate? (cs : List Char) : Option (List Char) := do
  let (year, cs) ← readDigits 4 cs
  let cs ← readChar? '-' cs
  let (month, cs) ← readDigits 2 cs
  if month < 1 ∨ 12 < month then none
  let cs ← readChar? '-' cs
  readTwo? 1 (daysIn year month) cs

/-- Parts of a second, if a point follows with a digit after it. -/
def skipFraction : List Char → List Char
  | '.' :: c :: rest => if c.isDigit then rest.dropWhile (·.isDigit) else '.' :: c :: rest
  | cs => cs

def readTime? (cs : List Char) : Option (List Char) := do
  let cs ← readTwo? 0 23 cs
  let cs ← readChar? ':' cs
  let cs ← readTwo? 0 59 cs
  let cs ← readChar? ':' cs
  let cs ← readTwo? 0 60 cs
  return skipFraction cs

def readOffset? : List Char → Option (List Char)
  | c :: cs =>
    if c = 'Z' ∨ c = 'z' then some cs
    else if c = '+' ∨ c = '-' then do
      let cs ← readTwo? 0 23 cs
      let cs ← readChar? ':' cs
      readTwo? 0 59 cs
    else none
  | [] => none

def readTimeOfDay? : List Char → Option (List Char)
  | c :: cs =>
    if c = 'T' ∨ c = 't' ∨ c = ' ' then (readTime? cs).map fun cs => (readOffset? cs).getD cs
    else none
  | [] => none

def readMoment? (cs : List Char) : Option (List Char) :=
  match readDate? cs with
  | some rest => some ((readTimeOfDay? rest).getD rest)
  | none => readTime? cs

end MvvmSymbols.Document
