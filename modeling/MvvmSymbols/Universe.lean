import MvvmSymbols.Identity

/-!
What resolution may ask of a compilation. A universe is the record of its
answers: a host may answer from a compiler, from a list of names, or from
another universe, and repeated questions get the same answer by construction.
-/

namespace MvvmSymbols

structure Universe where
  compilation : CompilationId
  /-- The visible type with this fully qualified name. -/
  find? : String → Option TypeIdentity
  /-- The fully qualified name behind a handle. -/
  nameOf? : TypeIdentity → Option String
  /-- The libraries that the compilation references. -/
  libraries : List String
  /-- Whether a type with this name is visible. A host may answer this question
  in a way of its own. -/
  contains : String → Bool := fun name => (find? name).isSome

namespace Universe

/-- The host has no visibility rule of its own: a type is visible if it is found. -/
def Plain (u : Universe) : Prop := ∀ name, u.contains name = (u.find? name).isSome

/-- A view of a universe that passes on its four answers and decides visibility
by finding the type. -/
def view (u : Universe) : Universe where
  compilation := u.compilation
  find? := u.find?
  nameOf? := u.nameOf?
  libraries := u.libraries

/-- A universe given by a host as a list of names with their keys. The first
entry counts for a name and for a key; of several visibility rules for a name
the last one counts. -/
def ofEntries (compilation : CompilationId) (entries : List (String × Nat))
    (libraries : List String) (visible : List (String × Bool)) : Universe :=
  let find? name := (entries.find? (·.1 = name)).map fun e => TypeIdentity.mk compilation e.2
  { compilation
    find?
    nameOf? := fun id =>
      if id.compilation = compilation then (entries.find? (·.2 = id.key)).map (·.1) else none
    libraries
    contains := fun name =>
      match visible.reverse.find? (·.1 = name) with
      | some rule => rule.2
      | none => (find? name).isSome }

end Universe

end MvvmSymbols
