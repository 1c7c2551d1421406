import MvvmSymbols.Universe

/-!
Universes made from declarations. Names are numbered in the order in which they
are first declared, and freezing gives the declarations a compilation number
that is not in use.
-/

namespace MvvmSymbols

inductive Declaration where
  | type (name : String)
  | library (name : String)
deriving DecidableEq

/-- Adds a value at the end unless it is there already. -/
def insertNew (x : String) (xs : List String) : List String :=
  if x ∈ xs then xs else xs ++ [x]

/-- What has been declared so far: the distinct type names and the distinct
libraries, each in order of first declaration. -/
structure Declarations where
  types : List String := []
  libraries : List String := []
deriving DecidableEq

namespace Declarations

def declare (d : Declarations) : Declaration → Declarations
  | .type name => { d with types := insertNew name d.types }
  | .library name => { d with libraries := insertNew name d.libraries }

def declareAll (d : Declarations) (ds : List Declaration) : Declarations := ds.foldl declare d

def ofList (ds : List Declaration) : Declarations := declareAll {} ds

end Declarations

/-- The compilation number that the next snapshot gets. -/
structure Numbering where
  next : UInt32 := 1

def Numbering.issue (n : Numbering) : CompilationId × Numbering := (⟨n.next⟩, ⟨n.next + 1⟩)

/-- Declarations that no longer change, under a compilation number. -/
structure Snapshot where
  compilation : CompilationId
  declarations : Declarations

def Declarations.freeze (d : Declarations) (n : Numbering) : Snapshot × Numbering :=
  let (compilation, n) := n.issue
  (⟨compilation, d⟩, n)

namespace Snapshot

def typeCount (s : Snapshot) : Nat := s.declarations.types.length

/-- The handle of a declared name: its place in the order of declaration. -/
def find? (s : Snapshot) (name : String) : Option TypeIdentity :=
  (s.declarations.types.idxOf? name).map (⟨s.compilation, ·⟩)

/-- A handle is named only by the snapshot that it comes from. -/
def nameOf? (s : Snapshot) (id : TypeIdentity) : Option String :=
  if id.compilation = s.compilation then s.declarations.types[id.key]? else none

def toUniverse (s : Snapshot) : Universe where
  compilation := s.compilation
  find? := s.find?
  nameOf? := s.nameOf?
  libraries := s.declarations.libraries

theorem plain_toUniverse (s : Snapshot) : s.toUniverse.Plain := fun _ => rfl

end Snapshot

end MvvmSymbols
