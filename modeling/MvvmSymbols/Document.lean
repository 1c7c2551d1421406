import MvvmSymbols.Document.Value

/-!
Reading a document: the lines before the first header belong to the document's
own table, and those after a header to the table that the header names.
-/

namespace MvvmSymbols.Document

inductive Statement where
  | entry (e : Entry)
  | header (repeated : Bool) (path : Path) (span : Span)

/-- A header after its opening bracket; `start` is where the bracket stands. -/
def readHeader (start : Nat) : Reader Statement
  | '[' :: cs => do
    let (path, cs) ← readPath cs
    match cs with
    | ']' :: ']' :: rest => return (.header true path ⟨start, rest.length⟩, rest)
    | _ => none
  | cs => do
    let (path, cs) ← readPath cs
    match cs with
    | ']' :: rest => return (.header false path ⟨start, rest.length⟩, rest)
    | _ => none

def readStatement : Reader Statement
  | '[' :: cs => readHeader (cs.length + 1) cs
  | cs => (readEntry (readValue (depthLimit - 1)) cs).map fun (e, rest) => (.entry e, rest)

def readStatements (cs : List Char) : Option (List Statement) :=
  match skipComment (skipBlanks cs) with
  | [] => some []
  | start =>
    match newline? start with
    | some rest => if rest.length < cs.length then readStatements rest else none
    | none =>
      match readStatement start with
      | none => none
      | some (statement, rest) =>
        match lineEnd? rest with
        | none => none
        | some rest =>
          if rest.length < cs.length then (readStatements rest).map (statement :: ·) else none
termination_by cs.length

/-- The entries before the first header, and the sections. -/
def sections : List Statement → List Entry × List Section
  | [] => ([], [])
  | .entry e :: rest => (e :: (sections rest).1, (sections rest).2)
  | .header repeated path span :: rest =>
    ([], ⟨repeated, path, span, (sections rest).1⟩ :: (sections rest).2)

/-- A mark of byte order may stand in front of a document. -/
def dropMark : List Char → List Char
  | '\ufeff' :: rest => rest
  | cs => cs

def read (text : String) : Option Table := do
  let statements ← readStatements (dropMark text.toList)
  let (entries, sections) := sections statements
  Table.ofSections entries sections

end MvvmSymbols.Document
