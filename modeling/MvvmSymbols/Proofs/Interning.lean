import Mathlib.Data.List.Induction
import Mathlib.Data.List.Nodup
import MvvmSymbols.Universe.Process

/-!
Names and their handles. Whatever calls a builder has had, its tables hold every
declared name once, in the order of first declaration. A frozen universe numbers
the names by their places in that table, so that names and handles determine
each other: no number is left out, none is taken twice, and a handle of another
compilation names nothing.
-/

namespace MvvmSymbols

/-- A new value goes to the end of a table, and a known one changes nothing. -/
theorem insertNew_eraseDups (xs : List String) (x : String) :
    insertNew x xs.eraseDups = (xs ++ [x]).eraseDups := by
  rw [List.eraseDups_append]
  by_cases hx : x ∈ xs
  · have hknown : [x].removeAll xs = [] := by simp [List.removeAll, hx]
    rw [insertNew, if_pos (List.mem_eraseDups.mpr hx), hknown]
    simp
  · have hnew : [x].removeAll xs = [x] := by simp [List.removeAll, hx]
    rw [insertNew, if_neg (mt List.mem_eraseDups.mp hx), hnew]
    simp [List.eraseDups_cons]

theorem nodup_insertNew {x : String} {xs : List String} (h : xs.Nodup) :
    (insertNew x xs).Nodup := by
  unfold insertNew
  split
  · exact h
  · rename_i hx
    refine List.nodup_append.mpr ⟨h, by simp, ?_⟩
    intro y hy z hz heq
    rw [List.mem_singleton] at hz
    subst hz
    subst heq
    exact hx hy

theorem nodup_eraseDups (xs : List String) : xs.eraseDups.Nodup := by
  induction xs using List.reverseRecOn with
  | nil => simp
  | append_singleton xs x ih =>
      rw [← insertNew_eraseDups]
      exact nodup_insertNew ih

/-- Where no value is repeated, values and their places determine each other. -/
theorem idxOf?_eq_some_iff_getElem? {xs : List String} (h : xs.Nodup) {x : String} {i : Nat} :
    xs.idxOf? x = some i ↔ xs[i]? = some x := by
  rw [List.idxOf?_eq_some_iff, List.getElem?_eq_some_iff]
  constructor
  · rintro ⟨hi, hx, -⟩
    exact ⟨hi, hx⟩
  · rintro ⟨hi, hx⟩
    refine ⟨hi, hx, ?_⟩
    intro j hj heq
    have hsame : j = i := h.getElem_inj_iff.mp (heq.trans hx.symm)
    omega

/-- The place of a value is the number of distinct values before its first occurrence. -/
theorem idxOf?_eraseDups {xs : List String} {x : String} (h : x ∈ xs) :
    xs.eraseDups.idxOf? x = some (xs.takeWhile (· ≠ x)).eraseDups.length := by
  obtain ⟨before, after, rfl, hx⟩ := List.eq_append_cons_of_mem h
  have hbefore : (before ++ x :: after).takeWhile (· ≠ x) = before := by
    rw [List.takeWhile_append_of_pos (by grind)]
    simp
  have htable : (before ++ x :: after).eraseDups =
      before.eraseDups ++ [x] ++ (after.removeAll (before ++ [x])).eraseDups := by
    have hnew : x ∉ before.eraseDups := mt List.mem_eraseDups.mp hx
    rw [List.append_cons, List.eraseDups_append, ← insertNew_eraseDups, insertNew, if_neg hnew]
  rw [idxOf?_eq_some_iff_getElem? (nodup_eraseDups _), hbefore, htable]
  simp

def BuilderCall.typeNames : BuilderCall → List String
  | .type name => [name]
  | .types names => names
  | .library _ => []

def BuilderCall.libraryNames : BuilderCall → List String
  | .library name => [name]
  | .type _ | .types _ => []

namespace Declarations

variable {d : Declarations} {types libraries : List String}

/-- A builder holds what was declared so far, each name once, where it came first. -/
structure Records (d : Declarations) (types libraries : List String) : Prop where
  types : d.types = types.eraseDups
  libraries : d.libraries = libraries.eraseDups

theorem Records.declareTypes (h : d.Records types libraries) (names : List String) :
    (d.declareAll (names.map .type)).Records (types ++ names) libraries := by
  induction names generalizing d types with
  | nil => simpa [declareAll] using h
  | cons name names ih =>
      have hname : (d.declare (.type name)).Records (types ++ [name]) libraries := by
        refine ⟨?_, h.libraries⟩
        rw [← insertNew_eraseDups, ← h.types]
        rfl
      rw [List.append_cons]
      exact ih hname

/-- The step: each call of the builder adds its names to what is recorded. -/
theorem Records.call (h : d.Records types libraries) (c : BuilderCall) :
    (d.call c).Records (types ++ c.typeNames) (libraries ++ c.libraryNames) := by
  cases c with
  | type name =>
      rw [BuilderCall.libraryNames, List.append_nil]
      exact h.declareTypes [name]
  | types names =>
      rw [BuilderCall.libraryNames, List.append_nil]
      exact h.declareTypes names
  | library name =>
      rw [BuilderCall.typeNames, List.append_nil]
      refine ⟨h.types, ?_⟩
      rw [BuilderCall.libraryNames, ← insertNew_eraseDups, ← h.libraries]
      rfl

/-- The run: what is recorded are the names of all calls, in order. -/
theorem Records.calls (h : d.Records types libraries) (calls : List BuilderCall) :
    (calls.foldl Declarations.call d).Records (types ++ calls.flatMap BuilderCall.typeNames)
      (libraries ++ calls.flatMap BuilderCall.libraryNames) := by
  induction calls generalizing d types libraries with
  | nil => simpa using h
  | cons c calls ih => simpa using ih (h.call c)

theorem records_ofCalls (calls : List BuilderCall) :
    (ofCalls calls).Records (calls.flatMap BuilderCall.typeNames)
      (calls.flatMap BuilderCall.libraryNames) := by
  have hempty : Records {} [] [] := ⟨by simp, by simp⟩
  exact hempty.calls calls

end Declarations

namespace Snapshot

variable {s : Snapshot} {names : List String}

theorem find?_isSome_iff (s : Snapshot) (name : String) :
    (s.find? name).isSome ↔ name ∈ s.declarations.types := by
  simp [find?]

theorem nameOf?_isSome_iff (s : Snapshot) (id : TypeIdentity) :
    (s.nameOf? id).isSome ↔ id.compilation = s.compilation ∧ id.key < s.typeCount := by
  unfold nameOf? typeCount
  split <;> simp_all

/-- A handle that a universe gives belongs to its compilation. -/
theorem compilation_of_find? {name : String} {id : TypeIdentity} (h : s.find? name = some id) :
    id.compilation = s.compilation := by
  obtain ⟨_, -, rfl⟩ := Option.map_eq_some_iff.mp h
  rfl

/-- Finding the handle of a name and naming a handle are inverse to each other. -/
theorem find?_eq_some_iff (h : s.declarations.types.Nodup) {name : String} {id : TypeIdentity} :
    s.find? name = some id ↔ s.nameOf? id = some name := by
  unfold find? nameOf?
  constructor
  · intro hfind
    obtain ⟨key, hkey, rfl⟩ := Option.map_eq_some_iff.mp hfind
    rw [if_pos rfl]
    exact (idxOf?_eq_some_iff_getElem? h).mp hkey
  · intro hname
    split at hname
    · rename_i hcompilation
      rw [(idxOf?_eq_some_iff_getElem? h).mpr hname, ← hcompilation]
      rfl
    · cases hname

/-- The handles of a universe and the names that were declared for it, in order
and with repetitions, determine each other. -/
structure NumbersDensely (s : Snapshot) (names : List String) : Prop where
  found_iff : ∀ name, (s.find? name).isSome ↔ name ∈ names
  /-- A name has as its number how many distinct names were declared before it. -/
  numbered : ∀ name id, s.find? name = some id →
    id = ⟨s.compilation, (names.takeWhile (· ≠ name)).eraseDups.length⟩
  typeCount : s.typeCount = names.eraseDups.length
  /-- The numbers in use are those below the number of types. -/
  dense : ∀ key, (∃ name, s.find? name = some ⟨s.compilation, key⟩) ↔ key < s.typeCount
  nameOf?_of_find? : ∀ name id, s.find? name = some id → s.nameOf? id = some name
  named_iff : ∀ id, (s.nameOf? id).isSome ↔
    id.compilation = s.compilation ∧ id.key < s.typeCount
  find?_of_nameOf? : ∀ id name, s.nameOf? id = some name → s.find? name = some id
  find?_inj : ∀ a ∈ names, ∀ b ∈ names, s.find? a = s.find? b ↔ a = b

theorem numbersDensely_of_types (h : s.declarations.types = names.eraseDups) :
    s.NumbersDensely names := by
  have hnodup : s.declarations.types.Nodup := by
    rw [h]
    exact nodup_eraseDups names
  have hfound (name : String) : (s.find? name).isSome ↔ name ∈ names := by
    rw [find?_isSome_iff, h, List.mem_eraseDups]
  constructor
  case found_iff => exact hfound
  case numbered =>
    intro name id hfind
    have hname : name ∈ names := (hfound name).mp (by simp [hfind])
    rw [find?, h, idxOf?_eraseDups hname] at hfind
    exact (Option.some.inj hfind).symm
  case typeCount => rw [typeCount, h]
  case dense =>
    intro key
    simp only [find?_eq_some_iff hnodup, ← Option.isSome_iff_exists, nameOf?_isSome_iff, true_and]
  case nameOf?_of_find? => exact fun _ _ => (find?_eq_some_iff hnodup).mp
  case named_iff => exact s.nameOf?_isSome_iff
  case find?_of_nameOf? => exact fun _ _ => (find?_eq_some_iff hnodup).mpr
  case find?_inj =>
    intro a ha b hb
    refine ⟨?_, congrArg s.find?⟩
    intro hsame
    obtain ⟨id, hid⟩ := Option.isSome_iff_exists.mp ((hfound a).mpr ha)
    have hname : s.nameOf? id = some a := (find?_eq_some_iff hnodup).mp hid
    rw [(find?_eq_some_iff hnodup).mp (hsame ▸ hid)] at hname
    exact (Option.some.inj hname).symm

/-- Frozen, the first occurrences of the declared names are numbered from zero. -/
theorem numbersDensely_freeze (calls : List BuilderCall) (n : Numbering) :
    ((Declarations.ofCalls calls).freeze n).1.NumbersDensely
      (calls.flatMap BuilderCall.typeNames) :=
  numbersDensely_of_types (Declarations.records_ofCalls calls).types

end Snapshot

/-- Whatever calls a builder has had, freezing it gives a universe with dense
numbers for the declared names. Its libraries are those that were added, each
once and in order of first addition, whatever types were declared in between. -/
theorem freeze_numbers_densely (calls : List BuilderCall) (n : Numbering) :
    let s := ((Declarations.ofCalls calls).freeze n).1
    s.NumbersDensely (calls.flatMap BuilderCall.typeNames) ∧
      s.toUniverse.libraries = (calls.flatMap BuilderCall.libraryNames).eraseDups := by
  intro s
  have hlibraries := (Declarations.records_ofCalls calls).libraries
  exact ⟨Snapshot.numbersDensely_freeze calls n, hlibraries⟩

/-- A name that is declared again takes no number. -/
example :
    let s := ((Declarations.ofCalls [.types ["A", "B", "A"], .library "L", .type "C"]).freeze {}).1
    s.typeCount = 3 ∧ s.find? "C" = some ⟨⟨1⟩, 2⟩ ∧ s.nameOf? ⟨⟨2⟩, 0⟩ = none := by
  decide +kernel

end MvvmSymbols
