import MvvmSymbols.Tree
import MvvmSymbols.WellKnown

/-!
The framework variants that a compilation can be resolved for, in their
canonical order, and the names that belong to each.
-/

namespace MvvmSymbols

/-- A supported MVVM framework, or `none` where no known one is referenced. -/
inductive Variant where
  | dx
  | prism
  | mvvmLight
  | none
deriving DecidableEq

namespace Variant

/-- The place in the canonical order: frameworks first, the fallback last. -/
def rank : Variant → Nat
  | .dx => 0
  | .prism => 1
  | .mvvmLight => 2
  | .none => 3

theorem rank_injective {v w : Variant} (h : v.rank = w.rank) : v = w := by
  cases v <;> cases w <;> simp_all [rank]

instance : LT Variant := ⟨fun v w => v.rank < w.rank⟩

instance : LE Variant := ⟨fun v w => v.rank ≤ w.rank⟩

instance (v w : Variant) : Decidable (v < w) := inferInstanceAs (Decidable (v.rank < w.rank))

instance (v w : Variant) : Decidable (v ≤ w) := inferInstanceAs (Decidable (v.rank ≤ w.rank))

theorem lt_trans {u v w : Variant} (h : u < v) (h' : v < w) : u < w := Nat.lt_trans h h'

theorem lt_or_lt_of_ne {v w : Variant} (h : v ≠ w) : v < w ∨ w < v :=
  Nat.lt_or_gt_of_ne fun equal => h (rank_injective equal)

instance : Ord Variant := ⟨fun v w => compare v.rank w.rank⟩

/-- The variants that have a runtime of their own. -/
def frameworks : List Variant := [.dx, .prism, .mvvmLight]

def all : List Variant := [.dx, .prism, .mvvmLight, .none]

theorem mem_all (v : Variant) : v ∈ all := by
  cases v <;> simp [all]

/-- The framework whose attribute namespace doubles as the fallback. -/
def isPrimary (v : Variant) : Bool := v = .dx

/-- The primary table serves its framework and the fallback. -/
def usesPrimaryTable (v : Variant) : Bool := v = .dx ∨ v = .none

def name : Variant → String
  | .dx => "dx"
  | .prism => "prism"
  | .mvvmLight => "mvvm_light"
  | .none => "none"

/-- The variant with this name, letter for letter. -/
def ofName? (s : String) : Option Variant := all.find? (·.name = s)

theorem ofName?_name (v : Variant) : ofName? v.name = some v := by
  cases v <;> decide

theorem name_of_ofName? {s : String} {v : Variant} (h : ofName? s = some v) : v.name = s := by
  simpa using List.find?_some h

/-- A variant stands in plain data as its name, or as a record whose only
field has that name and no value. -/
def ofTree? : Tree → Option Variant
  | .text s => ofName? s
  | .record [(s, .null)] => ofName? s
  | _ => Option.none

/-- The namespace of the generation attributes; the fallback has the primary one. -/
def attributeNamespace : Variant → String
  | .dx | .none => WellKnown.dxNamespace
  | .prism => WellKnown.prismNamespace
  | .mvvmLight => WellKnown.mvvmLightNamespace

def sort (vs : List Variant) : List Variant := vs.mergeSort (· ≤ ·)

def greatest? (vs : List Variant) : Option Variant := (sort vs).getLast?

end Variant

end MvvmSymbols
