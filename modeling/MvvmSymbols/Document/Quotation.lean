import MvvmSymbols.Document.Scan

/-!
Texts between quotes. There are four kinds: with double quotes, where a
backslash begins an escape, or with single quotes, where all stands as it is;
and each on one line, or over several between quotes written three times.
-/

namespace MvvmSymbols.Document

def hexValue? (cs : List Char) : Option Nat :=
  cs.foldlM (fun n c =>
    if c.isDigit then some (16 * n + (c.toNat - '0'.toNat))
    else if 'a' ≤ c ∧ c ≤ 'f' then some (16 * n + (c.toNat - 'a'.toNat + 10))
    else if 'A' ≤ c ∧ c ≤ 'F' then some (16 * n + (c.toNat - 'A'.toNat + 10))
    else none) 0

/-- The character with a code point in base 16; surrogates are no characters. -/
def charOfHex? (cs : List Char) : Option Char :=
  match hexValue? cs with
  | some n => if n.isValidChar then some (Char.ofNat n) else none
  | none => none

def escape? : Char → Option Char
  | 'b' => some '\x08'
  | 't' => some '\t'
  | 'n' => some '\n'
  | 'f' => some '\x0c'
  | 'r' => some '\r'
  | '"' => some '"'
  | '\\' => some '\\'
  | _ => none

def prependEscaped (c : Option Char) (read : Option (List Char × List Char)) :
    Option (List Char × List Char) :=
  match c with
  | some c => prepend c read
  | none => none

def readBasic : Reader (List Char)
  | [] => none
  | '"' :: rest => some ([], rest)
  | '\\' :: 'u' :: a :: b :: c :: d :: rest =>
    prependEscaped (charOfHex? [a, b, c, d]) (readBasic rest)
  | '\\' :: 'U' :: a :: b :: c :: d :: e :: f :: g :: h :: rest =>
    prependEscaped (charOfHex? [a, b, c, d, e, f, g, h]) (readBasic rest)
  | '\\' :: c :: rest => prependEscaped (escape? c) (readBasic rest)
  | c :: rest => if isContent c && c ≠ '\\' then prepend c (readBasic rest) else none

def readLiteral : Reader (List Char)
  | [] => none
  | '\'' :: rest => some ([], rest)
  | c :: rest => if isContent c then prepend c (readLiteral rest) else none

def endsLine (cs : List Char) : Bool := (newline? (skipBlanks cs)).isSome

/-- After three double quotes, up to the next three. Up to two more quotes may
stand right before those. A backslash at the end of a line takes away the line
end and all blanks and line ends after it; the flag says that this is going on. -/
def readMultiBasic : Bool → Reader (List Char)
  | _, [] => none
  | true, '\r' :: '\n' :: rest => readMultiBasic true rest
  | false, '\r' :: '\n' :: rest => prepend '\n' (readMultiBasic false rest)
  | _, '"' :: '"' :: '"' :: '"' :: '"' :: rest => some (['"', '"'], rest)
  | _, '"' :: '"' :: '"' :: '"' :: rest => some (['"'], rest)
  | _, '"' :: '"' :: '"' :: rest => some ([], rest)
  | _, '\\' :: 'u' :: a :: b :: c :: d :: rest =>
    prependEscaped (charOfHex? [a, b, c, d]) (readMultiBasic false rest)
  | _, '\\' :: 'U' :: a :: b :: c :: d :: e :: f :: g :: h :: rest =>
    prependEscaped (charOfHex? [a, b, c, d, e, f, g, h]) (readMultiBasic false rest)
  | _, '\\' :: c :: rest =>
    if endsLine (c :: rest) then readMultiBasic true (c :: rest)
    else prependEscaped (escape? c) (readMultiBasic false rest)
  | trimming, c :: rest =>
    if trimming && (isBlank c || c = '\n') then readMultiBasic true rest
    else if c = '\n' || (isContent c && c ≠ '\\') then prepend c (readMultiBasic false rest)
    else none

/-- After three single quotes, up to the next three. -/
def readMultiLiteral : Reader (List Char)
  | [] => none
  | '\r' :: '\n' :: rest => prepend '\n' (readMultiLiteral rest)
  | '\'' :: '\'' :: '\'' :: '\'' :: '\'' :: rest => some (['\'', '\''], rest)
  | '\'' :: '\'' :: '\'' :: '\'' :: rest => some (['\''], rest)
  | '\'' :: '\'' :: '\'' :: rest => some ([], rest)
  | c :: rest => if c = '\n' || isContent c then prepend c (readMultiLiteral rest) else none

/-- A line end right after the opening quotes is not part of the text. -/
def dropNewline (cs : List Char) : List Char := (newline? cs).getD cs

def readQuotation : Reader (List Char)
  | '"' :: '"' :: '"' :: rest => readMultiBasic false (dropNewline rest)
  | '"' :: rest => readBasic rest
  | '\'' :: '\'' :: '\'' :: rest => readMultiLiteral (dropNewline rest)
  | '\'' :: rest => readLiteral rest
  | _ => none

end MvvmSymbols.Document
