import MvvmSymbols.Proofs.Document.Distinct

/-!
What a document says, apart from how it is written. Places and the spelling of
tables and lists have no part in it, nor has the order of the names in a table: a
table is the map from its names to what is said under them.
-/

namespace MvvmSymbols.Document

/-- What a part of a document says. -/
inductive Content where
  | scalar (value : Scalar)
  | list (items : List Content)
  | table (find? : String → Option Content)

namespace Content

/-- What is said under a name in a name, and so on. -/
def at? : List String → Content → Option Content
  | [], c => some c
  | name :: path, .table find? => (find? name).bind (at? path)
  | _ :: _, _ => none

theorem at?_cons (c : Content) (name : String) (path : List String) :
    c.at? (name :: path) = (c.at? [name]).bind (at? path) := by
  cases c with
  | table find? =>
      change (find? name).bind (at? path) = ((find? name).bind some).bind (at? path)
      cases find? name <;> rfl
  | scalar | list => rfl

/-- Names with something under them. -/
def IsTable : Content → Prop
  | .table _ => True
  | _ => False

instance (c : Content) : Decidable c.IsTable :=
  match c with
  | .table _ => inferInstanceAs (Decidable True)
  | .scalar _ | .list _ => inferInstanceAs (Decidable False)

instance (said : Option Content) (value : Option Scalar) :
    Decidable (said = value.map .scalar) :=
  match said, value with
  | none, none => isTrue rfl
  | some (.scalar v), some w => decidable_of_iff (v = w) (by simp)
  | some (.list _), some _ | some (.table _), some _ => isFalse nofun
  | none, some _ | some _, none => isFalse nofun

inductive IsEmpty : Content → Prop
  | list : IsEmpty (.list [])
  | table : IsEmpty (.table fun _ => none)

def single (name : String) (c : Content) : Content :=
  .table fun other => if name = other then some c else none

end Content

mutual

def Node.content : Node → Content
  | .scalar _ value => .scalar value
  | .list _ items | .series _ items => .list (contents items)
  | .table _ _ entries => .table (contentOf? entries)

def contents : List Node → List Content
  | [] => []
  | n :: ns => n.content :: contents ns

def contentOf? : List (Key × Node) → String → Option Content
  | [], _ => none
  | (key, n) :: es, name => if key.name = name then some n.content else contentOf? es name

end

/-- The value of the first entry with this name. -/
def valueOf? (es : List (Key × Node)) (name : String) : Option Node :=
  (es.find? (·.1.name = name)).map (·.2)

def Table.content (t : Table) : Content := t.toNode.content

theorem contents_eq_map (ns : List Node) : contents ns = ns.map Node.content := by
  induction ns with
  | nil => rfl
  | cons n ns ih => rw [contents, ih, List.map_cons]

theorem valueOf?_cons (e : Key × Node) (es : List (Key × Node)) (name : String) :
    valueOf? (e :: es) name = if e.1.name = name then some e.2 else valueOf? es name := by
  by_cases hname : e.1.name = name <;> simp [valueOf?, hname]

/-- To forget where things stand and to look a name up can be done in either order. -/
theorem contentOf?_eq_map (es : List (Key × Node)) (name : String) :
    contentOf? es name = (valueOf? es name).map Node.content := by
  induction es with
  | nil => rfl
  | cons e es ih =>
      rw [contentOf?, valueOf?_cons, ih]
      split <;> rfl

/-- A path into a table begins with one of its entries. -/
theorem Node.at?_content_cons (form : TableForm) (span : Option Span) (es : List (Key × Node))
    (name : String) (path : List String) :
    (Node.table form span es).content.at? (name :: path) =
      (valueOf? es name).bind (·.content.at? path) := by
  change (contentOf? es name).bind (Content.at? path) = _
  rw [contentOf?_eq_map, Option.bind_map]
  rfl

theorem Table.at?_content_cons (t : Table) (name : String) (path : List String) :
    t.content.at? (name :: path) = (valueOf? t.entries name).bind (·.content.at? path) :=
  Node.at?_content_cons t.form t.span t.entries name path

/-- An entry is found under its name if no other entry has it. -/
theorem valueOf?_of_mem {es : List (Key × Node)} (hnames : (keyNames es).Nodup)
    {e : Key × Node} (he : e ∈ es) : valueOf? es e.1.name = some e.2 := by
  induction es with
  | nil => cases he
  | cons first es ih =>
      obtain ⟨hfirst, hrest⟩ := List.nodup_cons.mp hnames
      rw [valueOf?_cons]
      rcases List.mem_cons.mp he with rfl | he
      · rw [if_pos rfl]
      · have hne : first.1.name ≠ e.1.name := by
          intro heq
          exact hfirst (List.mem_map.mpr ⟨e, he, heq.symm⟩)
        rw [if_neg hne, ih hrest he]

/-- Entries that say nothing are none. -/
theorem eq_nil_of_contentOf? {es : List (Key × Node)} (h : contentOf? es = fun _ => none) :
    es = [] := by
  cases es with
  | nil => rfl
  | cons e es =>
      have hsaid := congrFun h e.1.name
      simp [contentOf?] at hsaid

/-- Entries that say something under one name are one entry. -/
theorem eq_singleton_of_contentOf? {es : List (Key × Node)} (hnames : (keyNames es).Nodup)
    {name : String} {c : Content}
    (h : contentOf? es = fun other => if name = other then some c else none) :
    ∃ key n, es = [(key, n)] ∧ key.name = name ∧ n.content = c := by
  have hname (e : Key × Node) (he : e ∈ es) : name = e.1.name := by
    have hsaid := congrFun h e.1.name
    rw [contentOf?_eq_map, valueOf?_of_mem hnames he] at hsaid
    by_contra hne
    rw [if_neg hne] at hsaid
    cases hsaid
  match es with
  | [] =>
      have hsaid := congrFun h name
      simp [contentOf?] at hsaid
  | [(key, n)] =>
      have hkey : name = key.name := hname (key, n) List.mem_cons_self
      have hsaid := congrFun h name
      rw [contentOf?, if_pos hkey.symm, if_pos rfl] at hsaid
      exact ⟨key, n, rfl, hkey.symm, Option.some.inj hsaid⟩
  | first :: second :: _ =>
      have heq := (hname first List.mem_cons_self).symm.trans
        (hname second (List.mem_cons_of_mem _ List.mem_cons_self))
      obtain ⟨hfirst, -⟩ := List.nodup_cons.mp hnames
      exact absurd (List.mem_map.mpr ⟨second, List.mem_cons_self, heq.symm⟩) hfirst

end MvvmSymbols.Document
