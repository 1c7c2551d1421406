/-!
Cutting text: at every occurrence of a separator, and at byte offsets. An
offset inside a character's bytes is no place to cut at.
-/

namespace MvvmSymbols.Text

/-- The parts between the separators, empty ones included. -/
def split (separator : Char) : List Char → List (List Char)
  | [] => [[]]
  | c :: cs =>
    if c = separator then [] :: split separator cs
    else
      match split separator cs with
      | [] => [[c]]
      | part :: parts => (c :: part) :: parts

theorem split_ne_nil (separator : Char) (cs : List Char) : split separator cs ≠ [] := by
  fun_cases split separator cs <;> simp_all

theorem split_append (separator : Char) (xs ys : List Char) :
    split separator (xs ++ separator :: ys) = split separator xs ++ split separator ys := by
  induction xs with
  | nil => simp [split]
  | cons x xs ih =>
      by_cases hx : x = separator
      · simp [split, hx, ih]
      · cases hparts : split separator xs with
        | nil => exact absurd hparts (split_ne_nil separator xs)
        | cons part parts => simp [split, hx, ih, hparts]

theorem split_of_not_mem {separator : Char} {cs : List Char} (h : separator ∉ cs) :
    split separator cs = [cs] := by
  induction cs with
  | nil => rfl
  | cons c cs ih =>
      rw [List.mem_cons, not_or] at h
      simp [split, Ne.symm h.1, ih h.2]

theorem not_mem_of_mem_split {separator : Char} {cs part : List Char}
    (h : part ∈ split separator cs) : separator ∉ part := by
  induction cs generalizing part with
  | nil =>
      rw [List.mem_singleton.mp h]
      exact List.not_mem_nil
  | cons c cs ih =>
      by_cases hc : c = separator
      · simp only [split, if_pos hc, List.mem_cons] at h
        rcases h with rfl | hlater
        · exact List.not_mem_nil
        · exact ih hlater
      · cases hparts : split separator cs with
        | nil => exact absurd hparts (split_ne_nil separator cs)
        | cons first rest =>
            simp only [split, if_neg hc, hparts, List.mem_cons] at h
            rw [hparts] at ih
            rcases h with rfl | hlater
            · rw [List.mem_cons, not_or]
              exact ⟨Ne.symm hc, ih List.mem_cons_self⟩
            · exact ih (List.mem_cons_of_mem _ hlater)

def byteLength (cs : List Char) : Nat := cs.foldr (fun c n => c.utf8Size + n) 0

def dropBytes? : Nat → List Char → Option (List Char)
  | 0, cs => some cs
  | _ + 1, [] => none
  | n + 1, c :: cs => if c.utf8Size ≤ n + 1 then dropBytes? (n + 1 - c.utf8Size) cs else none
termination_by _ cs => cs.length

def takeBytes? : Nat → List Char → Option (List Char)
  | 0, _ => some []
  | _ + 1, [] => none
  | n + 1, c :: cs =>
    if c.utf8Size ≤ n + 1 then (takeBytes? (n + 1 - c.utf8Size) cs).map (c :: ·) else none
termination_by _ cs => cs.length

/-- The bytes from one offset up to another, if both lie between characters. -/
def slice? (cs : List Char) (start stop : Nat) : Option (List Char) :=
  (takeBytes? stop cs).bind (dropBytes? start)

/-- An offset between characters, or at either end of the text. -/
def IsBoundary (cs : List Char) (n : Nat) : Prop :=
  ∃ before, before <+: cs ∧ byteLength before = n

@[simp] theorem byteLength_nil : byteLength [] = 0 := rfl

@[simp] theorem byteLength_cons (c : Char) (cs : List Char) :
    byteLength (c :: cs) = c.utf8Size + byteLength cs := rfl

@[simp] theorem byteLength_append (xs ys : List Char) :
    byteLength (xs ++ ys) = byteLength xs + byteLength ys := by
  induction xs with
  | nil => simp
  | cons x xs ih => simp [ih, Nat.add_assoc]

theorem byteLength_eq_zero_iff {cs : List Char} : byteLength cs = 0 ↔ cs = [] := by
  cases cs with
  | nil => simp
  | cons c cs => simp [Nat.ne_of_gt c.utf8Size_pos]

theorem byteLength_mono {xs ys : List Char} (h : xs <+: ys) :
    byteLength xs ≤ byteLength ys := by
  obtain ⟨rest, rfl⟩ := h
  simp

/-- Of two beginnings of a text the one that takes fewer bytes begins the other. -/
theorem isPrefix_of_byteLength_le {xs ys cs : List Char} (hxs : xs <+: cs) (hys : ys <+: cs)
    (hle : byteLength xs ≤ byteLength ys) : xs <+: ys := by
  rcases List.prefix_or_prefix_of_prefix hxs hys with hbegins | ⟨rest, rfl⟩
  · exact hbegins
  · rw [byteLength_append] at hle
    have hnil : rest = [] := byteLength_eq_zero_iff.mp (by omega)
    refine ⟨[], ?_⟩
    rw [List.append_nil, hnil, List.append_nil]

/-- The first bytes of a text are given if they make up whole characters. -/
theorem takeBytes?_eq_some_iff {n : Nat} {cs before : List Char} :
    takeBytes? n cs = some before ↔ before <+: cs ∧ byteLength before = n := by
  fun_induction takeBytes? n cs generalizing before with
  | case1 cs =>
      rw [byteLength_eq_zero_iff, Option.some_inj]
      constructor
      · rintro rfl
        exact ⟨List.nil_prefix, rfl⟩
      · rintro ⟨-, hnil⟩
        exact hnil.symm
  | case2 n =>
      rw [List.prefix_nil]
      constructor
      · exact nofun
      · rintro ⟨rfl, hlength⟩
        cases hlength
  | case3 n c cs hfits ih =>
      simp only [Option.map_eq_some_iff, ih, List.prefix_cons_iff]
      constructor
      · rintro ⟨rest, ⟨hrest, hlength⟩, rfl⟩
        refine ⟨Or.inr ⟨rest, rfl, hrest⟩, ?_⟩
        rw [byteLength_cons, hlength, Nat.add_sub_of_le hfits]
      · rintro ⟨rfl | ⟨rest, rfl, hrest⟩, hlength⟩
        · cases hlength
        · exact ⟨rest, ⟨hrest, Nat.eq_sub_of_add_eq' hlength⟩, rfl⟩
  | case4 n c cs hlong =>
      rw [List.prefix_cons_iff]
      constructor
      · exact nofun
      · rintro ⟨rfl | ⟨rest, rfl, -⟩, hlength⟩
        · cases hlength
        · rw [byteLength_cons] at hlength
          omega

/-- What follows the first bytes is what is left without the characters they make up. -/
theorem dropBytes?_eq_map (n : Nat) (cs : List Char) :
    dropBytes? n cs = (takeBytes? n cs).map fun before => cs.drop before.length := by
  fun_induction dropBytes? n cs with
  | case1 cs => simp [takeBytes?]
  | case2 n => simp [takeBytes?]
  | case3 n c cs hfits ih => simp [takeBytes?, hfits, ih, Function.comp_def]
  | case4 n c cs hlong => simp [takeBytes?, hlong]

theorem dropBytes?_eq_some_iff {n : Nat} {cs after : List Char} :
    dropBytes? n cs = some after ↔ ∃ before, before ++ after = cs ∧ byteLength before = n := by
  simp only [dropBytes?_eq_map, Option.map_eq_some_iff, takeBytes?_eq_some_iff]
  constructor
  · rintro ⟨before, ⟨hbegins, hlength⟩, rfl⟩
    exact ⟨before, List.prefix_iff_eq_append.mp hbegins, hlength⟩
  · rintro ⟨before, rfl, hlength⟩
    exact ⟨before, ⟨List.prefix_append before after, hlength⟩, List.drop_left⟩

/-- A part lies between two offsets iff the text begins with what is before it and
then the part. -/
theorem slice?_eq_some_iff {cs part : List Char} {start stop : Nat} :
    slice? cs start stop = some part ↔
      ∃ before, before ++ part <+: cs ∧ byteLength before = start ∧
        byteLength (before ++ part) = stop := by
  simp only [slice?, Option.bind_eq_some_iff, takeBytes?_eq_some_iff, dropBytes?_eq_some_iff]
  constructor
  · rintro ⟨_, ⟨hbegins, hstop⟩, before, rfl, hstart⟩
    exact ⟨before, hbegins, hstart, hstop⟩
  · rintro ⟨before, hbegins, hstart, hstop⟩
    exact ⟨before ++ part, ⟨hbegins, hstop⟩, before, rfl, hstart⟩

/-- There is a part between two offsets iff they stand in order, each between
characters. -/
theorem exists_slice?_iff {cs : List Char} {start stop : Nat} :
    (∃ part, slice? cs start stop = some part) ↔
      start ≤ stop ∧ IsBoundary cs start ∧ IsBoundary cs stop := by
  simp only [slice?_eq_some_iff]
  constructor
  · rintro ⟨part, before, hbegins, rfl, rfl⟩
    have hbefore : before <+: before ++ part := List.prefix_append before part
    exact ⟨byteLength_mono hbefore, ⟨before, hbefore.trans hbegins, rfl⟩,
      before ++ part, hbegins, rfl⟩
  · rintro ⟨hle, ⟨before, hbefore, rfl⟩, whole, hwhole, rfl⟩
    obtain ⟨part, rfl⟩ := isPrefix_of_byteLength_le hbefore hwhole hle
    exact ⟨part, before, hwhole, rfl, rfl⟩

namespace IsBoundary

instance (cs : List Char) (n : Nat) : Decidable (IsBoundary cs n) :=
  decidable_of_iff ((takeBytes? n cs).isSome = true) (by
    simp only [Option.isSome_iff_exists, takeBytes?_eq_some_iff, IsBoundary])

theorem le_byteLength {cs : List Char} {n : Nat} (h : IsBoundary cs n) : n ≤ byteLength cs := by
  obtain ⟨before, hbegins, rfl⟩ := h
  exact byteLength_mono hbegins

theorem append (xs ys : List Char) : IsBoundary (xs ++ ys) (byteLength xs) :=
  ⟨xs, List.prefix_append xs ys, rfl⟩

theorem length (cs : List Char) : IsBoundary cs (byteLength cs) := ⟨cs, List.prefix_rfl, rfl⟩

end IsBoundary

end MvvmSymbols.Text
