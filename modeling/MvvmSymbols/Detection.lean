import MvvmSymbols.Config
import MvvmSymbols.Reported
import MvvmSymbols.Universe

/-!
Which frameworks a compilation references. One marker type is looked for per
framework; every framework whose marker is visible is in the result, in
canonical order, and the fallback stands in for an empty result.
-/

namespace MvvmSymbols

/-- A marker type whose presence signals a framework. -/
structure Probe where
  variant : Variant
  marker : String
deriving DecidableEq

def Probe.catalog : List Probe :=
  [⟨.dx, WellKnown.dxMarker⟩, ⟨.prism, WellKnown.prismMarker⟩,
    ⟨.mvvmLight, WellKnown.mvvmLightMarker⟩]

/-- The marker of a framework; the fallback has none. -/
def Variant.marker? (v : Variant) : Option String :=
  (Probe.catalog.find? (·.variant = v)).map (·.marker)

/-- Looks for a variant in an ascending list. The answer is its place or, as an
error, the place where it belongs. -/
def search (v : Variant) : List Variant → Except Nat Nat
  | [] => .error 0
  | w :: ws =>
    if v = w then .ok 0
    else if v < w then .error 0
    else
      match search v ws with
      | .ok i => .ok (i + 1)
      | .error i => .error (i + 1)

theorem mem_of_search {v : Variant} {ws : List Variant} {i : Nat} (h : search v ws = .ok i) :
    v ∈ ws := by
  induction ws generalizing i with
  | nil => cases h
  | cons w ws ih =>
    unfold search at h
    split at h
    · rename_i same
      exact same ▸ List.mem_cons_self
    · split at h
      · cases h
      · split at h
        · rename_i hlater
          exact List.mem_cons_of_mem w (ih hlater)
        · cases h

/-- The place where a variant belongs stands between the lesser and the greater ones. -/
theorem insertIdx_of_search {v : Variant} {ws : List Variant} {i : Nat}
    (hascending : ws.Pairwise (· < ·)) (h : search v ws = .error i) :
    ∃ lesser greater, ws = lesser ++ greater ∧ ws.insertIdx i v = lesser ++ v :: greater ∧
      (∀ w ∈ lesser, w < v) ∧ ∀ w ∈ greater, v < w := by
  induction ws generalizing i with
  | nil =>
    cases h
    exact ⟨[], [], rfl, rfl, nofun, nofun⟩
  | cons w ws ih =>
    obtain ⟨hw, hws⟩ := List.pairwise_cons.mp hascending
    unfold search at h
    split at h
    · cases h
    · rename_i distinct
      split at h
      · rename_i below
        cases h
        refine ⟨[], w :: ws, rfl, rfl, nofun, ?_⟩
        intro u hu
        rcases List.mem_cons.mp hu with rfl | hu
        · exact below
        · exact Variant.lt_trans below (hw u hu)
      · rename_i notBelow
        have above : w < v := (Variant.lt_or_lt_of_ne distinct).resolve_left notBelow
        split at h
        · cases h
        · rename_i hlater
          cases h
          obtain ⟨lesser, greater, rfl, hinsert, hlesser, hgreater⟩ := ih hws hlater
          refine ⟨w :: lesser, greater, rfl, ?_, ?_, hgreater⟩
          · rw [List.insertIdx_succ_cons, hinsert, List.cons_append]
          · exact List.forall_mem_cons.mpr ⟨above, hlesser⟩

/-- Where the search says that a variant belongs, it keeps the order. -/
theorem pairwise_insertIdx {v : Variant} {ws : List Variant} {i : Nat}
    (hascending : ws.Pairwise (· < ·)) (h : search v ws = .error i) :
    (ws.insertIdx i v).Pairwise (· < ·) := by
  obtain ⟨lesser, greater, rfl, hinsert, hlesser, hgreater⟩ := insertIdx_of_search hascending h
  obtain ⟨before, behind, across⟩ := List.pairwise_append.mp hascending
  rw [hinsert, List.pairwise_append]
  refine ⟨before, List.pairwise_cons.mpr ⟨hgreater, behind⟩, ?_⟩
  intro u hu w hw
  rcases List.mem_cons.mp hw with rfl | hw
  · exact hlesser u hu
  · exact across u hu w hw

/-- A set of variants: its members in ascending order, each once. -/
structure VariantSet where
  toList : List Variant
  ascending : toList.Pairwise (· < ·)
deriving DecidableEq

namespace VariantSet

def empty : VariantSet := ⟨[], .nil⟩

/-- Puts a variant where it belongs, unless it is there. -/
def insert (s : VariantSet) (v : Variant) : VariantSet :=
  match h : search v s.toList with
  | .ok _ => s
  | .error i => ⟨s.toList.insertIdx i v, pairwise_insertIdx s.ascending h⟩

/-- Whether the search has found the variant or not, it is a member afterwards. -/
theorem mem_insert {s : VariantSet} {v w : Variant} :
    v ∈ (s.insert w).toList ↔ v = w ∨ v ∈ s.toList := by
  unfold insert
  split
  · rename_i hfound
    have hw := mem_of_search hfound
    constructor
    · exact Or.inr
    · rintro (rfl | hv)
      · exact hw
      · exact hv
  · rename_i i hmissing
    obtain ⟨lesser, greater, hsplit, hinsert, -, -⟩ := insertIdx_of_search s.ascending hmissing
    change v ∈ s.toList.insertIdx i w ↔ v = w ∨ v ∈ s.toList
    rw [hinsert, hsplit]
    simp only [List.mem_append, List.mem_cons]
    exact or_left_comm

def contains (s : VariantSet) (v : Variant) : Bool := v ∈ s.toList

def size (s : VariantSet) : Nat := s.toList.length

def isEmpty (s : VariantSet) : Bool := s.toList.isEmpty

def isNoneOnly (s : VariantSet) : Bool := s.toList = [.none]

end VariantSet

structure Detection where
  variants : VariantSet
  /-- The primary framework is present in its WinUI profile. -/
  isWinUi : Bool
deriving DecidableEq

namespace Detection

def contains (d : Detection) (v : Variant) : Bool := d.variants.contains v

/-- Some detected variant is served by the primary table. -/
def needsPrimaryTable (d : Detection) : Bool := d.contains .dx || d.contains .none

end Detection

/-- Whether a probe that is not disabled finds its marker; either way it says
what it did. -/
def Probe.run (p : Probe) (u : Universe) (config : DetectionConfig) : Reported Bool := do
  if config.isDisabled p.variant then
    report (.probeSkipped p.variant)
    return false
  else if u.contains p.marker then
    report (.markerFound p.variant p.marker)
    return true
  else
    return false

def runProbes (u : Universe) (config : DetectionConfig) :
    List Probe → VariantSet → Reported VariantSet
  | [], found => return found
  | p :: ps, found => do
    let hit ← p.run u config
    runProbes u config ps (if hit then found.insert p.variant else found)

/-- Both profiles of the primary framework share their marker; the profile is
told by the absence of a type that only the classic one has. -/
def detectWith (probes : List Probe) (u : Universe) (config : DetectionConfig) :
    Reported Detection := do
  let found ← runProbes u config probes .empty
  let variants := if found.isEmpty then found.insert .none else found
  return ⟨variants, variants.contains .dx && !u.contains WellKnown.dxClassicMarker⟩

def detect (u : Universe) (config : DetectionConfig) : Reported Detection :=
  detectWith Probe.catalog u config

end MvvmSymbols
