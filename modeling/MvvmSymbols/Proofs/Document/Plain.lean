import Mathlib.Data.List.Forall2
import MvvmSymbols.Proofs.Document.Content
import MvvmSymbols.Tree

/-!
Documents as plain data. Plain data has no dates and times, so a document with one
is not plain; every other document is, whatever the spelling of its tables and lists.
-/

namespace MvvmSymbols.Document

mutual

def Node.toTree? : Node → Option Tree
  | .scalar _ (.text value) => some (.text value)
  | .scalar _ (.integer value) => some (.integer value)
  | .scalar _ (.real value) => some (.real value)
  | .scalar _ (.boolean value) => some (.boolean value)
  | .scalar _ .moment => none
  | .list _ items | .series _ items => (treesOf? items).map .list
  | .table _ _ entries => (fieldsOf? entries).map .record

def treesOf? : List Node → Option (List Tree)
  | [] => some []
  | n :: ns => do
    let t ← n.toTree?
    let ts ← treesOf? ns
    return t :: ts

def fieldsOf? : List (Key × Node) → Option (List (String × Tree))
  | [] => some []
  | (key, n) :: es => do
    let t ← n.toTree?
    let fs ← fieldsOf? es
    return (key.name, t) :: fs

end

def Table.toTree? (t : Table) : Option Tree := t.toNode.toTree?

/-- No date or time stands anywhere in the node. -/
inductive Node.Timeless : Node → Prop
  | scalar (span : Span) {value : Scalar} (hvalue : value ≠ .moment) :
      Timeless (.scalar span value)
  | list (span : Span) {items : List Node} (hitems : ∀ n ∈ items, Timeless n) :
      Timeless (.list span items)
  | series (span : Span) {items : List Node} (hitems : ∀ n ∈ items, Timeless n) :
      Timeless (.series span items)
  | table (form : TableForm) (span : Option Span) {entries : List (Key × Node)}
      (hvalues : ∀ e ∈ entries, Timeless e.2) : Timeless (.table form span entries)

theorem exists_treesOf? {ns : List Node} (h : ∀ n ∈ ns, ∃ t, n.toTree? = some t) :
    ∃ ts, treesOf? ns = some ts := by
  induction ns with
  | nil => exact ⟨[], rfl⟩
  | cons n ns ih =>
      obtain ⟨⟨t, ht⟩, hrest⟩ := List.forall_mem_cons.mp h
      obtain ⟨ts, hts⟩ := ih hrest
      exact ⟨t :: ts, by rw [treesOf?, ht, hts]; rfl⟩

theorem exists_fieldsOf? {es : List (Key × Node)} (h : ∀ e ∈ es, ∃ t, e.2.toTree? = some t) :
    ∃ fs, fieldsOf? es = some fs := by
  induction es with
  | nil => exact ⟨[], rfl⟩
  | cons e es ih =>
      obtain ⟨⟨t, ht⟩, hrest⟩ := List.forall_mem_cons.mp h
      obtain ⟨fs, hfs⟩ := ih hrest
      exact ⟨(e.1.name, t) :: fs, by rw [fieldsOf?, ht, hfs]; rfl⟩

/-- Without dates and times, a document is plain data. -/
theorem Node.Timeless.exists_toTree? {n : Node} (h : n.Timeless) : ∃ t, n.toTree? = some t := by
  induction h with
  | @scalar _ value hvalue =>
      cases value with
      | moment => exact absurd rfl hvalue
      | text | integer | real | boolean => exact ⟨_, rfl⟩
  | list _ _ ih | series _ _ ih =>
      obtain ⟨ts, hts⟩ := exists_treesOf? ih
      exact ⟨.list ts, by rw [Node.toTree?, hts]; rfl⟩
  | table _ _ _ ih =>
      obtain ⟨fs, hfs⟩ := exists_fieldsOf? ih
      exact ⟨.record fs, by rw [Node.toTree?, hfs]; rfl⟩

theorem treesOf?_eq_some {ns : List Node} {ts : List Tree} (h : treesOf? ns = some ts) :
    List.Forall₂ (·.toTree? = some ·) ns ts := by
  induction ns generalizing ts with
  | nil =>
      cases h
      exact .nil
  | cons n ns ih =>
      obtain ⟨t, ht, h⟩ := Option.bind_eq_some_iff.mp h
      obtain ⟨rest, hrest, heq⟩ := Option.bind_eq_some_iff.mp h
      cases heq
      exact .cons ht (ih hrest)

theorem fieldsOf?_append {es es' : List (Key × Node)} {fs fs' : List (String × Tree)}
    (h : fieldsOf? es = some fs) (h' : fieldsOf? es' = some fs') :
    fieldsOf? (es ++ es') = some (fs ++ fs') := by
  induction es generalizing fs with
  | nil =>
      cases h
      exact h'
  | cons e es ih =>
      obtain ⟨t, ht, h⟩ := Option.bind_eq_some_iff.mp h
      obtain ⟨rest, hrest, heq⟩ := Option.bind_eq_some_iff.mp h
      cases heq
      rw [List.cons_append, fieldsOf?, ht, ih hrest]
      rfl

/-- Whatever is found in a table is among the fields of its data. -/
theorem mem_of_fieldsOf? {es : List (Key × Node)} {fs : List (String × Tree)}
    (h : fieldsOf? es = some fs) {name : String} {n : Node} (hn : valueOf? es name = some n) :
    ∃ t, n.toTree? = some t ∧ (name, t) ∈ fs := by
  induction es generalizing fs with
  | nil => cases hn
  | cons e es ih =>
      obtain ⟨t, ht, h⟩ := Option.bind_eq_some_iff.mp h
      obtain ⟨rest, hrest, heq⟩ := Option.bind_eq_some_iff.mp h
      cases heq
      rw [valueOf?_cons] at hn
      split at hn
      · rename_i hname
        cases hn
        exact ⟨t, ht, hname ▸ List.mem_cons_self⟩
      · obtain ⟨t', ht', hmem⟩ := ih hrest hn
        exact ⟨t', ht', List.mem_cons_of_mem _ hmem⟩

namespace Content

/-- What is said is this plain data. -/
def IsPlain (c : Content) (t : Tree) : Prop := ∃ n : Node, n.content = c ∧ n.toTree? = some t

variable {c : Content}

/-- Only a text has a text as its data. -/
theorem IsPlain.text {s : String} (h : c.IsPlain (.text s)) : c = .scalar (.text s) := by
  obtain ⟨n, rfl, h⟩ := h
  rw [Node.toTree?.eq_def] at h
  split at h
  · cases h
    rfl
  all_goals simp at h

theorem IsPlain.boolean {b : Bool} (h : c.IsPlain (.boolean b)) : c = .scalar (.boolean b) := by
  obtain ⟨n, rfl, h⟩ := h
  rw [Node.toTree?.eq_def] at h
  split at h
  case h_4 =>
    cases h
    rfl
  all_goals simp at h

/-- Documents have nothing that is neither said nor unsaid. -/
theorem not_isPlain_null : ¬c.IsPlain .null := by
  rintro ⟨n, -, h⟩
  rw [Node.toTree?.eq_def] at h
  split at h <;> simp at h

theorem isPlain_of_forall₂ {ns : List Node} {ts : List Tree}
    (h : List.Forall₂ (·.toTree? = some ·) ns ts) : List.Forall₂ IsPlain (contents ns) ts := by
  rw [contents_eq_map, List.forall₂_map_left_iff]
  exact h.imp fun n t ht => ⟨n, rfl, ht⟩

/-- Only a list has a list as its data, and the data of its items. -/
theorem IsPlain.list {ts : List Tree} (h : c.IsPlain (.list ts)) :
    ∃ cs, c = .list cs ∧ List.Forall₂ IsPlain cs ts := by
  obtain ⟨n, rfl, h⟩ := h
  rw [Node.toTree?.eq_def] at h
  split at h
  case h_6 | h_7 =>
    obtain ⟨ts', hts, heq⟩ := Option.map_eq_some_iff.mp h
    cases heq
    exact ⟨_, rfl, isPlain_of_forall₂ (treesOf?_eq_some hts)⟩
  all_goals simp at h

/-- Plain data with fields is a table, and each of its names is a field. -/
theorem IsPlain.record {fs : List (String × Tree)} (h : c.IsPlain (.record fs)) :
    c.IsTable ∧ ∀ name c', c.at? [name] = some c' → ∃ t, c'.IsPlain t ∧ (name, t) ∈ fs := by
  obtain ⟨n, rfl, h⟩ := h
  rw [Node.toTree?.eq_def] at h
  split at h
  case h_8 form span es =>
    obtain ⟨fs', hfs, heq⟩ := Option.map_eq_some_iff.mp h
    cases heq
    refine ⟨trivial, fun name c' hc' => ?_⟩
    rw [Node.at?_content_cons] at hc'
    obtain ⟨m, hm, heq⟩ := Option.bind_eq_some_iff.mp hc'
    cases heq
    obtain ⟨t, ht, hmem⟩ := mem_of_fieldsOf? hfs hm
    exact ⟨t, ⟨m, rfl, ht⟩, hmem⟩
  all_goals simp at h

end Content

end MvvmSymbols.Document
