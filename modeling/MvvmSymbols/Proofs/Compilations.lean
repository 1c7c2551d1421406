import Mathlib.Data.Nat.ModEq
import MvvmSymbols.Proofs.Handles

/-!
Compilation numbers in the course of a process. Universes that are frozen one
after another get numbers one after another, whichever builders they come from
and whatever happens in between; the numbers come round again after 2³² of them.
Handles carry the number, so that among 2³² universes in a row no handle of one
is a handle of another, or has a name in another.
-/

namespace MvvmSymbols

/-- The handles that a caller can get from a universe: those of names, and those
that stand in a context resolved for it. -/
inductive Snapshot.Gives (s : Snapshot) : TypeIdentity → Prop where
  | found {name : String} {id : TypeIdentity} (h : s.find? name = some id) : s.Gives id
  | stored {config : Config} {c : Context} {place : Place} {id : TypeIdentity}
      (h : c.Reachable s.toUniverse config) (hid : c.get? place = some id) : s.Gives id

theorem Snapshot.Gives.compilation {s : Snapshot} {id : TypeIdentity} (h : s.Gives id) :
    id.compilation = s.compilation := by
  cases h with
  | found h => exact compilation_of_find? h
  | stored h hid =>
      obtain ⟨tables, hresolved⟩ := Context.resolvedFrom_of_resolve h.resolve
      exact compilation_of_find? (hresolved.find?_of_get? hid)

/-- A handle of another compilation has no name. -/
theorem Snapshot.nameOf?_foreign {s : Snapshot} {id : TypeIdentity}
    (h : id.compilation ≠ s.compilation) : s.nameOf? id = none := by
  rw [nameOf?, if_neg h]

namespace Process

variable {p q : Process}

/-- What a step can do: open an empty builder, change one that is open, or put
one that is open among the frozen universes, under the next number. -/
theorem step_cases {a : Action} (h : p.step a = some q) :
    q = { p with builders := p.builders ++ [some {}] } ∨
    (∃ handle d c, some d ∈ p.builders ∧
      q = { p with builders := p.builders.set handle (some (d.call c)) }) ∨
    ∃ handle d, some d ∈ p.builders ∧
      q = ⟨p.builders.set handle none, p.numbering.issue.2,
        p.frozen ++ [(d.freeze p.numbering).1]⟩ := by
  have hopen {handle : Nat} {d : Declarations} (hd : p.builder? handle = some d) :
      some d ∈ p.builders :=
    List.mem_of_getElem? (Option.join_eq_some_iff.mp hd)
  cases a with
  | create =>
      cases h
      exact Or.inl rfl
  | call handle c =>
      obtain ⟨d, hd, rfl⟩ := Option.map_eq_some_iff.mp h
      exact Or.inr (Or.inl ⟨handle, d, c, hopen hd, rfl⟩)
  | freeze handle =>
      obtain ⟨d, hd, rfl⟩ := Option.map_eq_some_iff.mp h
      exact Or.inr (Or.inr ⟨handle, d, hopen hd, rfl⟩)

/-- What every step preserves holds at the end of a run. -/
theorem run_preserves {P : Process → Prop} (hstep : ∀ p a q, P p → p.step a = some q → P q)
    {actions : List Action} (hp : P p) (h : p.run actions = some q) : P q := by
  induction actions generalizing p with
  | nil =>
      cases h
      exact hp
  | cons a actions ih =>
      obtain ⟨r, hr, hrest⟩ := Option.bind_eq_some_iff.mp h
      exact ih (hstep p a r hp hr) hrest

/-- Builders hold what their calls have declared, and the universe frozen after
`i` others has the number `i + 1`, modulo 2³². -/
structure Sound (p : Process) : Prop where
  numbering : p.numbering = ⟨UInt32.ofNat (p.frozen.length + 1)⟩
  builders : ∀ d, some d ∈ p.builders → ∃ calls, d = .ofCalls calls
  frozen : ∀ (i : Nat) (s : Snapshot), p.frozen[i]? = some s →
    ∃ calls, s = ((Declarations.ofCalls calls).freeze ⟨UInt32.ofNat (i + 1)⟩).1

theorem sound_start : Sound {} where
  numbering := rfl
  builders := by simp
  frozen := by simp

/-- A step freezes at most one universe, and under the number that is next. -/
theorem sound_step (p : Process) (a : Action) (q : Process) (hp : p.Sound)
    (h : p.step a = some q) : q.Sound := by
  rcases step_cases h with rfl | ⟨handle, d, c, hd, rfl⟩ | ⟨handle, d, hd, rfl⟩
  · refine ⟨hp.numbering, ?_, hp.frozen⟩
    intro e he
    rcases List.mem_append.mp he with he | he
    · exact hp.builders e he
    · have hempty : e = {} := by simpa using he
      exact ⟨[], hempty⟩
  · refine ⟨hp.numbering, ?_, hp.frozen⟩
    intro e he
    rcases List.mem_or_eq_of_mem_set he with he | he
    · exact hp.builders e he
    · obtain ⟨calls, rfl⟩ := hp.builders d hd
      refine ⟨calls ++ [c], ?_⟩
      rw [Option.some.inj he, Declarations.ofCalls, Declarations.ofCalls, List.foldl_append]
      rfl
  · refine ⟨?_, ?_, ?_⟩
    · rw [List.length_append, List.length_singleton, UInt32.ofNat_add, hp.numbering]
      rfl
    · intro e he
      rcases List.mem_or_eq_of_mem_set he with he | he
      · exact hp.builders e he
      · cases he
    · intro i s hs
      by_cases hi : i < p.frozen.length
      · rw [List.getElem?_append_left hi] at hs
        exact hp.frozen i s hs
      · obtain ⟨hbound, hlast⟩ := List.getElem?_eq_some_iff.mp hs
        rw [List.length_append, List.length_singleton] at hbound
        have hnew : i = p.frozen.length := by omega
        subst hnew
        obtain ⟨calls, rfl⟩ := hp.builders d hd
        rw [List.getElem_concat_length rfl, hp.numbering] at hlast
        exact ⟨calls, hlast.symm⟩

theorem sound_of_run {actions : List Action} (h : run {} actions = some p) : p.Sound :=
  run_preserves sound_step sound_start h

/-- Numbers are given in turn and come round after 2³² of them. -/
theorem Sound.compilation_eq_iff (hp : p.Sound) {i j : Nat} {s t : Snapshot}
    (hs : p.frozen[i]? = some s) (ht : p.frozen[j]? = some t) :
    s.compilation = t.compilation ↔ i ≡ j [MOD 2 ^ 32] := by
  obtain ⟨_, rfl⟩ := hp.frozen i s hs
  obtain ⟨_, rfl⟩ := hp.frozen j t ht
  change CompilationId.mk (UInt32.ofNat (i + 1)) = CompilationId.mk (UInt32.ofNat (j + 1)) ↔ _
  rw [CompilationId.mk.injEq, ← UInt32.toNat_inj, UInt32.toNat_ofNat', UInt32.toNat_ofNat']
  exact Nat.ModEq.add_iff_right Nat.ModEq.rfl

end Process

/-- Handles of two universes never meet: no handle of one is equal to a handle of
the other, is taken to be of the same compilation, or has a name there. -/
structure Snapshot.Apart (s t : Snapshot) : Prop where
  ne : ∀ a b, s.Gives a → t.Gives b → a ≠ b
  sameCompilation : ∀ a b, s.Gives a → t.Gives b → a.sameCompilation b = false
  nameOf? : ∀ a, s.Gives a → t.nameOf? a = none

theorem Snapshot.apart_of_compilation_ne {s t : Snapshot} (h : s.compilation ≠ t.compilation) :
    s.Apart t := by
  have hdiffer (a b : TypeIdentity) (ha : s.Gives a) (hb : t.Gives b) :
      a.compilation ≠ b.compilation := by
    rw [ha.compilation, hb.compilation]
    exact h
  constructor
  case ne =>
    rintro a b ha hb rfl
    exact hdiffer a a ha hb rfl
  case sameCompilation =>
    intro a b ha hb
    exact decide_eq_false (hdiffer a b ha hb)
  case nameOf? =>
    intro a ha
    apply nameOf?_foreign
    rw [ha.compilation]
    exact h

/-- Two universes of a process have the same number iff a multiple of 2³² of
universes was frozen from the one to the other. So any two of 2³² universes
frozen in a row are apart, whatever their builders have declared. -/
theorem frozen_universes_apart {actions : List Process.Action} {p : Process}
    (h : Process.run {} actions = some p) :
    (∀ (i j : Nat) (s t : Snapshot), p.frozen[i]? = some s → p.frozen[j]? = some t →
      (s.compilation = t.compilation ↔ i ≡ j [MOD 2 ^ 32])) ∧
    ∀ (start i j : Nat) (s t : Snapshot), p.frozen[i]? = some s → p.frozen[j]? = some t →
      start ≤ i ∧ i < start + 2 ^ 32 → start ≤ j ∧ j < start + 2 ^ 32 → i ≠ j → s.Apart t := by
  have hsound := Process.sound_of_run h
  refine ⟨fun i j s t hs ht => hsound.compilation_eq_iff hs ht, ?_⟩
  intro start i j s t hs ht hi hj hne
  apply Snapshot.apart_of_compilation_ne
  rw [Ne, hsound.compilation_eq_iff hs ht, Nat.ModEq]
  omega

/-- Two builders with the same calls, frozen in the opposite order of their creation. -/
theorem twin_universes_apart :
    let calls : List BuilderCall := [.types requiredNames, .type WellKnown.dxMarker]
    let actions : List Process.Action := [.create, .create] ++
      calls.flatMap (fun c => [.call 0 c, .call 1 c]) ++ [.freeze 1, .freeze 0]
    ∃ p s t, Process.run {} actions = some p ∧ p.frozen = [s, t] ∧
      s.declarations = t.declarations ∧ s.Apart t := by
  intro calls actions
  let s : Snapshot := ⟨⟨1⟩, .ofCalls calls⟩
  let t : Snapshot := ⟨⟨2⟩, .ofCalls calls⟩
  have hrun : Process.run {} actions = some ⟨[none, none], ⟨3⟩, [s, t]⟩ := rfl
  refine ⟨_, s, t, hrun, rfl, rfl, ?_⟩
  exact (frozen_universes_apart hrun).2 0 0 1 s t rfl rfl (by decide) (by decide) (by decide)

end MvvmSymbols
