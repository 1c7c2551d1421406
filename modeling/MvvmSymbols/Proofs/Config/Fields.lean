import Mathlib.Data.List.Pairwise
import MvvmSymbols.Config.Decode
import MvvmSymbols.Proofs.Document.Content

/-!
Decoders that go through the entries of a table. Such a decoder is described by the
fields it fills; from the description it follows that it comes to its end exactly
where each field is given a value that fits, that entries under other names make no
difference, and that the order of the entries makes none to what is decoded.
-/

namespace MvvmSymbols

open Document (Content Key Node keyNames valueOf?)

section

variable {ε α β : Type} {a : α} {b : β} {x : Except ε α}

theorem mapError_eq_ok_iff {ε' : Type} {f : ε → ε'} : x.mapError f = .ok a ↔ x = .ok a := by
  cases x <;> simp [Except.mapError]

theorem map_eq_ok_iff {f : α → β} : x.map f = .ok b ↔ ∃ a, x = .ok a ∧ f a = b := by
  cases x <;> simp [Except.map]

theorem bind_eq_ok_iff {f : α → Except ε β} :
    x >>= f = .ok b ↔ ∃ a, x = .ok a ∧ f a = .ok b := by
  cases x <;> simp [bind, Except.bind]

end

/-- The value of a field: what stands for it where something is said, and else its
default. -/
inductive Given {β α : Type} (StandsFor : β → α → Prop) (default : α) : Option β → α → Prop
  | unset : Given StandsFor default none default
  | set {b : β} {a : α} (h : StandsFor b a) : Given StandsFor default (some b) a

namespace Given

variable {α β γ : Type} {P : β → α → Prop} {default a : α}

theorem none_iff : Given P default none a ↔ a = default := by
  constructor
  · rintro ⟨⟩
    rfl
  · rintro rfl
    exact .unset

theorem some_iff {b : β} : Given P default (some b) a ↔ P b a := by
  constructor
  · rintro ⟨⟩
    assumption
  · exact .set

theorem map_iff {f : γ → β} {x : Option γ} :
    Given P default (x.map f) a ↔ Given (fun c => P (f c)) default x a := by
  cases x
  · rw [Option.map_none, none_iff, none_iff]
  · rw [Option.map_some, some_iff, some_iff]

theorem congr {Q : β → α → Prop} {x : Option β} (h : ∀ b, x = some b → (P b a ↔ Q b a)) :
    Given P default x a ↔ Given Q default x a := by
  cases x with
  | none => rw [none_iff, none_iff]
  | some b => rw [some_iff, some_iff, h b rfl]

end Given

structure Field (σ : Type) where
  {Value : Type}
  name : String
  decode : Node → Decoded Value
  get : σ → Value
  put : σ → Value → σ
  get_put : ∀ c a, get (put c a) = a

structure Field.Apart {σ : Type} (f g : Field σ) : Prop where
  names : f.name ≠ g.name
  left (c : σ) (a : g.Value) : f.get (g.put c a) = f.get c
  right (c : σ) (a : f.Value) : g.get (f.put c a) = g.get c

instance {σ : Type} : Std.Symm (@Field.Apart σ) :=
  ⟨fun _ _ h => ⟨h.names.symm, h.right, h.left⟩⟩

structure Fields (σ : Type) where
  fields : List (Field σ)
  apart : fields.Pairwise Field.Apart
  ext : ∀ c c', (∀ f ∈ fields, f.get c = f.get c') → c = c'

/-- What is decoded for a field from entries is its value. -/
def Field.Decodes {σ : Type} (f : Field σ) (es : List (Key × Node)) (c c' : σ) : Prop :=
  Given (f.decode · = .ok ·) (f.get c) (valueOf? es f.name) (f.get c')

/-- What a field gets from the entries of a table is determined by them. -/
theorem Field.Decodes.unique {σ : Type} {f : Field σ} {es : List (Key × Node)} {c c' c'' : σ}
    (h : f.Decodes es c c') (h' : f.Decodes es c c'') : f.get c' = f.get c'' := by
  unfold Decodes at h h'
  cases hvalue : valueOf? es f.name with
  | none =>
      rw [hvalue, Given.none_iff] at h h'
      exact h.trans h'.symm
  | some n =>
      rw [hvalue, Given.some_iff] at h h'
      exact Except.ok.inj (h.symm.trans h')

/-- What is decoded for a field of a table is a matter of what the table says under
the field's name. -/
theorem Field.decodes_iff {σ : Type} {f : Field σ} {StandsFor : Content → f.Value → Prop}
    (hstands : ∀ n a, n.Distinct → (f.decode n = .ok a ↔ StandsFor n.content a))
    {form : Document.TableForm} {span : Option Document.Span} {es : List (Key × Node)}
    (hn : (Node.table form span es).Distinct) {c c' : σ} :
    f.Decodes es c c' ↔
      Given StandsFor (f.get c) ((Node.table form span es).content.at? [f.name]) (f.get c') := by
  have hsaid : (Node.table form span es).content.at? [f.name] =
      (valueOf? es f.name).map Node.content := by
    rw [Node.at?_content_cons, Option.map_eq_bind]
    rfl
  rw [Field.Decodes, hsaid, Given.map_iff]
  refine Given.congr fun n hvalue => hstands n _ ?_
  exact (Document.Table.Distinct.ofNode hn form span).find? hvalue

namespace Fields

variable {σ : Type} (fs : Fields σ)

def names : List String := fs.fields.map (·.name)

/-- What one entry does to a configuration: it has a part in the field of its name. -/
def step (c : σ) (e : Key × Node) : Decoded σ :=
  match fs.fields.find? (·.name = e.1.name) with
  | some f => (decodeValue f.decode e.1 e.2).map (f.put c)
  | none => pure c

variable {fs} {f g : Field σ} {c c' : σ} {e : Key × Node} {es : List (Key × Node)}

theorem apart_of_ne (hf : f ∈ fs.fields) (hg : g ∈ fs.fields) (hne : f ≠ g) : f.Apart g :=
  fs.apart.forall hf hg hne

/-- No two fields share a name, so a field is the one that is found under its name. -/
theorem find?_eq (hf : f ∈ fs.fields) : fs.fields.find? (·.name = f.name) = some f := by
  cases hfind : fs.fields.find? (·.name = f.name) with
  | none => exact absurd (decide_eq_true rfl) (List.find?_eq_none.mp hfind f hf)
  | some g =>
      have hname : g.name = f.name := by simpa using List.find?_some hfind
      by_contra hne
      have hdiffers : g ≠ f := fun heq => hne (congrArg some heq)
      exact (apart_of_ne (List.mem_of_find?_eq_some hfind) hf hdiffers).names hname

theorem step_of_mem (hf : f ∈ fs.fields) (hname : e.1.name = f.name) :
    fs.step c e = (decodeValue f.decode e.1 e.2).map (f.put c) := by
  rw [step, hname, find?_eq hf]

/-- An entry under any other name is passed over, whatever it holds. -/
theorem step_of_unknown (hnew : e.1.name ∉ fs.names) : fs.step c e = pure c := by
  have hnone : fs.fields.find? (·.name = e.1.name) = none := by
    refine List.find?_eq_none.mpr fun f hf hname => hnew ?_
    rw [← of_decide_eq_true hname]
    exact List.mem_map_of_mem hf
  rw [step, hnone]

theorem step_eq_ok_iff (hf : f ∈ fs.fields) (hname : e.1.name = f.name) :
    fs.step c e = .ok c' ↔ ∃ a, f.decode e.2 = .ok a ∧ f.put c a = c' := by
  rw [step_of_mem hf hname, map_eq_ok_iff]
  simp only [decodeValue, mapError_eq_ok_iff]

/-- An entry under another name leaves a field alone. -/
theorem get_of_step (hf : f ∈ fs.fields) (hname : e.1.name ≠ f.name)
    (hstep : fs.step c e = .ok c') : f.get c' = f.get c := by
  rw [step] at hstep
  split at hstep
  · rename_i g hg
    obtain ⟨a, -, rfl⟩ := map_eq_ok_iff.mp hstep
    have hgname : g.name = e.1.name := by simpa using List.find?_some hg
    have hdiffers : g ≠ f := by
      rintro rfl
      exact hname hgname.symm
    exact (apart_of_ne (List.mem_of_find?_eq_some hg) hf hdiffers).right c a
  · cases hstep
    rfl

/-- After a walk over entries, a field has what its one entry gives it. -/
theorem decodes_of_foldlM (hf : f ∈ fs.fields) (hnames : (keyNames es).Nodup)
    (hwalk : es.foldlM fs.step c = .ok c') : f.Decodes es c c' := by
  induction es generalizing c with
  | nil =>
      cases hwalk
      exact .unset
  | cons e es ih =>
      obtain ⟨hfresh, hnames⟩ := List.nodup_cons.mp hnames
      rw [List.foldlM_cons] at hwalk
      obtain ⟨next, hstep, hwalk⟩ := bind_eq_ok_iff.mp hwalk
      have hrest := ih hnames hwalk
      rw [Field.Decodes] at hrest ⊢
      by_cases hname : e.1.name = f.name
      · obtain ⟨a, hdecode, rfl⟩ := (step_eq_ok_iff hf hname).mp hstep
        have hnone : valueOf? es f.name = none := by
          rw [← hname]
          exact Document.Table.find?_eq_none_of_not_mem (t := ⟨.closed, none, es⟩) hfresh
        rw [hnone, Given.none_iff, f.get_put] at hrest
        rw [Document.valueOf?_cons, if_pos hname, Given.some_iff, hrest]
        exact hdecode
      · rwa [Document.valueOf?_cons, if_neg hname, ← get_of_step hf hname hstep]

/-- A walk over entries that all fit comes to its end. -/
theorem exists_foldlM_eq_ok (hfits : ∀ e ∈ es, ∀ c, ∃ c', fs.step c e = .ok c') (c : σ) :
    ∃ c', es.foldlM fs.step c = .ok c' := by
  induction es generalizing c with
  | nil => exact ⟨c, rfl⟩
  | cons e es ih =>
      obtain ⟨hfirst, hrest⟩ := List.forall_mem_cons.mp hfits
      obtain ⟨next, hstep⟩ := hfirst c
      obtain ⟨c', hwalk⟩ := ih hrest next
      rw [List.foldlM_cons]
      exact ⟨c', bind_eq_ok_iff.mpr ⟨next, hstep, hwalk⟩⟩

/-- A walk over entries of different names succeeds iff each field decodes what stands
under its name. In which order the entries come makes no difference. -/
theorem foldlM_eq_ok_iff (hnames : (keyNames es).Nodup) :
    es.foldlM fs.step c = .ok c' ↔ ∀ f ∈ fs.fields, f.Decodes es c c' := by
  constructor
  · intro hwalk f hf
    exact decodes_of_foldlM hf hnames hwalk
  · intro hdecodes
    have hfits (e : Key × Node) (he : e ∈ es) (b : σ) : ∃ b', fs.step b e = .ok b' := by
      cases hfind : fs.fields.find? (·.name = e.1.name) with
      | none => exact ⟨b, by rw [step, hfind]; rfl⟩
      | some f =>
          have hf := List.mem_of_find?_eq_some hfind
          have hname : f.name = e.1.name := by simpa using List.find?_some hfind
          have hdecode := hdecodes f hf
          rw [Field.Decodes, hname, Document.valueOf?_of_mem hnames he, Given.some_iff] at hdecode
          exact ⟨_, (step_eq_ok_iff hf hname.symm).mpr ⟨_, hdecode, rfl⟩⟩
    obtain ⟨c'', hwalk⟩ := exists_foldlM_eq_ok hfits c
    have hsame : c'' = c' :=
      fs.ext c'' c' fun f hf => (decodes_of_foldlM hf hnames hwalk).unique (hdecodes f hf)
    rwa [← hsame]

/-- A decoder of entries goes through them one by one. -/
structure Describes (fs : Fields σ) (walk : List (Key × Node) → σ → Decoded σ) : Prop where
  nil (c : σ) : walk [] c = .ok c
  cons (e : Key × Node) (es : List (Key × Node)) (c : σ) :
    walk (e :: es) c = fs.step c e >>= walk es

namespace Describes

variable {walk : List (Key × Node) → σ → Decoded σ} (hwalk : fs.Describes walk)

include hwalk

theorem eq_foldlM (es : List (Key × Node)) (c : σ) : walk es c = es.foldlM fs.step c := by
  induction es generalizing c with
  | nil => exact hwalk.nil c
  | cons e es ih =>
      rw [hwalk.cons, List.foldlM_cons]
      exact bind_congr ih

theorem eq_ok_iff (hnames : (keyNames es).Nodup) :
    walk es c = .ok c' ↔ ∀ f ∈ fs.fields, f.Decodes es c c' := by
  rw [hwalk.eq_foldlM, foldlM_eq_ok_iff hnames]

/-- Entries under other names make no difference, not even to a failure. -/
theorem filter (es : List (Key × Node)) (c : σ) :
    walk (es.filter (·.1.name ∈ fs.names)) c = walk es c := by
  rw [hwalk.eq_foldlM, hwalk.eq_foldlM, List.foldlM_filter]
  congr 1
  funext c e
  split
  · rfl
  · rename_i hnew
    exact (step_of_unknown fun hname => hnew (decide_eq_true hname)).symm

end Describes

end Fields

end MvvmSymbols
