import MvvmSymbols.Document.Node
import MvvmSymbols.Document.Quotation

/-!
Names of entries. A name is bare or quoted, and a name with dots leads through
tables: all its parts but the last name a table on the way.
-/

namespace MvvmSymbols.Document

/-- A key with the keys of the tables that lead to it. -/
structure Path where
  parents : List Key
  key : Key
deriving DecidableEq

def isBare (c : Char) : Bool := c.isAlphanum || c = '-' || c = '_'

def readName : Reader String
  | '"' :: cs => (readBasic cs).map fun (name, rest) => (String.ofList name, rest)
  | '\'' :: cs => (readLiteral cs).map fun (name, rest) => (String.ofList name, rest)
  | cs =>
    let name := cs.takeWhile isBare
    if name.isEmpty then none else some (String.ofList name, cs.dropWhile isBare)

def readKey (cs : List Char) : Option (Key × List Char) := do
  let cs := skipBlanks cs
  let (name, rest) ← readName cs
  return (⟨name, ⟨cs.length, rest.length⟩⟩, skipBlanks rest)

def readKeys (cs : List Char) : Option (List Key × List Char) :=
  match readKey cs with
  | some (key, '.' :: rest) =>
    if rest.length < cs.length then
      (readKeys rest).map fun (keys, rest) => (key :: keys, rest)
    else none
  | some (key, rest) => some ([key], rest)
  | none => none
termination_by cs.length

/-- How deep a name or a value may go. -/
def depthLimit : Nat := 80

/-- A name, of fewer parts than the limit. -/
def readPath (cs : List Char) : Option (Path × List Char) := do
  let (keys, rest) ← readKeys cs
  let key ← keys.getLast?
  if depthLimit ≤ keys.length then none
  return (⟨keys.dropLast, key⟩, rest)

end MvvmSymbols.Document
