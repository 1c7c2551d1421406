/-!
The layout of documents: blanks, line ends and comments. A reader takes what it
reads off the front of a text and gives back the rest.
-/

namespace MvvmSymbols.Document

/-- Takes a value off the front of a text; `none` if no value begins there. -/
abbrev Reader (α : Type) := List Char → Option (α × List Char)

def prepend (c : Char) : Option (List Char × List Char) → Option (List Char × List Char)
  | some (cs, rest) => some (c :: cs, rest)
  | none => none

def isBlank (c : Char) : Bool := c = ' ' || c = '\t'

/-- Characters that may stand in comments and, but for the delimiters, in
texts: tabs and all that are no controls of the first 128 characters. -/
def isContent (c : Char) : Bool := c = '\t' || (' ' ≤ c && c ≠ '\x7f')

def skipBlanks (cs : List Char) : List Char := cs.dropWhile isBlank

/-- A line ends with a line feed, before which a carriage return may stand. -/
def newline? : List Char → Option (List Char)
  | '\n' :: rest => some rest
  | '\r' :: '\n' :: rest => some rest
  | _ => none

def skipComment : List Char → List Char
  | '#' :: rest => rest.dropWhile isContent
  | cs => cs

/-- After the last word of a line: blanks and a comment, up to the line's end. -/
def lineEnd? (cs : List Char) : Option (List Char) :=
  match skipComment (skipBlanks cs) with
  | [] => some []
  | rest => newline? rest

/-- What may stand between the items of a list: blanks, line ends and comments.
The flag says whether a comment is open. -/
def skipGap : Bool → List Char → List Char
  | false, '#' :: rest => skipGap true rest
  | true, '\n' :: rest => skipGap false rest
  | true, '\r' :: '\n' :: rest => skipGap false rest
  | true, c :: rest => if isContent c then skipGap true rest else c :: rest
  | false, '\r' :: '\n' :: rest => skipGap false rest
  | false, c :: rest => if isBlank c || c = '\n' then skipGap false rest else c :: rest
  | _, [] => []

end MvvmSymbols.Document
