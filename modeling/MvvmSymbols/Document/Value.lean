import MvvmSymbols.Document.Number
import MvvmSymbols.Document.Quotation
import MvvmSymbols.Document.Table

/-!
Values: scalars, lists between brackets and tables between braces. Lists and
tables hold values in turn, up to a limit of depth.
-/

namespace MvvmSymbols.Document

def readScalar (cs : List Char) : Option (Scalar × List Char) :=
  match cs with
  | 't' :: 'r' :: 'u' :: 'e' :: rest => some (.boolean true, rest)
  | 'f' :: 'a' :: 'l' :: 's' :: 'e' :: rest => some (.boolean false, rest)
  | '"' :: _ | '\'' :: _ =>
    (readQuotation cs).map fun (value, rest) => (.text (String.ofList value), rest)
  | 'i' :: _ | 'n' :: _ => readUnsigned false cs
  | c :: _ => if c = '+' || c = '-' || c.isDigit then readNumeric cs else none
  | [] => none

/-- The items of a list after its opening bracket. A comma may stand after the
last one. -/
def readItems (value : Reader Node) (cs : List Char) : Option (List Node × List Char) :=
  match skipGap false cs with
  | ']' :: rest => some ([], rest)
  | start =>
    match value start with
    | none => none
    | some (item, rest) =>
      match skipGap false rest with
      | ']' :: rest => some ([item], rest)
      | ',' :: rest =>
        if rest.length < cs.length then
          (readItems value rest).map fun (items, rest) => (item :: items, rest)
        else none
      | _ => none
termination_by cs.length

def readEntry (value : Reader Node) (cs : List Char) : Option (Entry × List Char) :=
  match readPath cs with
  | some (path, '=' :: rest) =>
    (value (skipBlanks rest)).map fun (value, rest) => (⟨path, value⟩, skipBlanks rest)
  | _ => none

/-- The entries of a table between braces, from the first one on. No comma may
stand after the last one. -/
def readPairs (value : Reader Node) (cs : List Char) : Option (List Entry × List Char) :=
  match readEntry value cs with
  | some (entry, '\x7d' :: rest) => some ([entry], rest)
  | some (entry, ',' :: rest) =>
    if rest.length < cs.length then
      (readPairs value rest).map fun (entries, rest) => (entry :: entries, rest)
    else none
  | _ => none
termination_by cs.length

def readBraces (value : Reader Node) (cs : List Char) : Option (List Entry × List Char) :=
  match skipBlanks cs with
  | '\x7d' :: rest => some ([], rest)
  | _ => readPairs value cs

/-- A value in which lists and tables go at most so deep. -/
def readValue : Nat → Reader Node
  | 0, cs => (readScalar cs).map fun (value, rest) => (.scalar ⟨cs.length, rest.length⟩ value, rest)
  | depth + 1, cs =>
    match cs with
    | '[' :: start => do
      let (items, rest) ← readItems (readValue depth) start
      return (.list ⟨cs.length, rest.length⟩ items, rest)
    | '\x7b' :: start => do
      let (entries, rest) ← readBraces (readValue depth) start
      let table ← Table.ofPairs? ⟨cs.length, rest.length⟩ entries
      return (table, rest)
    | _ => (readScalar cs).map fun (value, rest) => (.scalar ⟨cs.length, rest.length⟩ value, rest)

end MvvmSymbols.Document
