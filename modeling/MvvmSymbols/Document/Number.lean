import MvvmSymbols.Document.Moment
import MvvmSymbols.Document.Node
import MvvmSymbols.Document.Scan

/-!
Numbers. An integer has to fit in 64 bits. A real is read to the nearest value
of the floating-point format; one too large for it is refused if it is positive.
-/

namespace MvvmSymbols.Document

/-- Digits of which any two may have an underscore between them, after a first
digit. An underscore with no digit after it is a fault. -/
def readMoreDigits (isDigit : Char → Bool) : Reader (List Char)
  | [] => some ([], [])
  | ['_'] => none
  | '_' :: c :: rest =>
    if isDigit c then prepend c (readMoreDigits isDigit rest) else none
  | c :: rest =>
    if isDigit c then prepend c (readMoreDigits isDigit rest) else some ([], c :: rest)

def readDigitRun (isDigit : Char → Bool) : Reader (List Char)
  | c :: rest => if isDigit c then prepend c (readMoreDigits isDigit rest) else none
  | [] => none

/-- A whole number: no zero may stand before another digit. -/
def readWhole : Reader (List Char)
  | '0' :: rest => some (['0'], rest)
  | cs => readDigitRun (·.isDigit) cs

def digitsValue (cs : List Char) : Nat := cs.foldl (fun n c => 10 * n + (c.toNat - '0'.toNat)) 0

/-- A sign, if one is there: whether it is a minus, and the rest. -/
def readSign : List Char → Bool × List Char
  | '-' :: rest => (true, rest)
  | '+' :: rest => (false, rest)
  | cs => (false, cs)

def readExponent (cs : List Char) : Option (Int × List Char) := do
  let (negative, cs) := readSign cs
  let (digits, rest) ← readDigitRun (·.isDigit) cs
  let value : Int := digitsValue digits
  return (if negative then -value else value, rest)

def isExponentMark (c : Char) : Bool := c = 'e' || c = 'E'

def integer? (value : Int) : Option Scalar :=
  if -Int.pow 2 63 ≤ value ∧ value < Int.pow 2 63 then some (.integer value) else none

/-- The real `±digits · 10^exponent`. -/
def real? (negative : Bool) (digits : List Char) (exponent : Int) : Option Scalar :=
  match Decimal.Binary64.ofDecimal negative (digitsValue digits) exponent with
  | .infinite false => none
  | value => some (.real value)

/-- What follows the whole part: a fraction, an exponent, both, or neither. -/
def readDecimal (negative : Bool) (whole : List Char) : Reader Scalar
  | '.' :: cs => do
    let (part, cs) ← readDigitRun (·.isDigit) cs
    let (exponent, cs) ← match cs with
      | c :: rest => if isExponentMark c then readExponent rest else some (0, cs)
      | [] => some (0, [])
    let value ← real? negative (whole ++ part) (exponent - part.length)
    return (value, cs)
  | c :: cs =>
    if isExponentMark c then do
      let (exponent, cs) ← readExponent cs
      let value ← real? negative whole exponent
      return (value, cs)
    else do
      let value ← integer? (if negative then -digitsValue whole else digitsValue whole)
      return (value, c :: cs)
  | [] => do
    let value ← integer? (if negative then -digitsValue whole else digitsValue whole)
    return (value, [])

def digitValue (c : Char) : Nat :=
  if c.isDigit then c.toNat - '0'.toNat
  else if 'a' ≤ c ∧ c ≤ 'f' then c.toNat - 'a'.toNat + 10
  else if 'A' ≤ c ∧ c ≤ 'F' then c.toNat - 'A'.toNat + 10
  else 16

/-- An integer in another base, after the letter that names the base. -/
def readInBase (base : Nat) (cs : List Char) : Option (Scalar × List Char) := do
  let (digits, rest) ← readDigitRun (fun c => digitValue c < base) cs
  let value ← integer? (digits.foldl (fun n c => base * n + digitValue c) 0 : Nat)
  return (value, rest)

def readUnsigned (negative : Bool) : Reader Scalar
  | 'i' :: 'n' :: 'f' :: rest => some (.real (.infinite negative), rest)
  | 'n' :: 'a' :: 'n' :: rest => some (.real .nan, rest)
  | cs => do
    let (whole, rest) ← readWhole cs
    readDecimal negative whole rest

/-- A number, a date or a time. Another base takes no sign. -/
def readNumeric (cs : List Char) : Option (Scalar × List Char) :=
  match readMoment? cs with
  | some rest => some (.moment, rest)
  | none =>
    match cs with
    | '0' :: 'x' :: rest => readInBase 16 rest
    | '0' :: 'o' :: rest => readInBase 8 rest
    | '0' :: 'b' :: rest => readInBase 2 rest
    | _ => readUnsigned (readSign cs).1 (readSign cs).2

end MvvmSymbols.Document
