import Mathlib.Data.List.Nodup
import MvvmSymbols.Proofs.Document.Sections

/-!
Names in documents are distinct. A table, wherever in a document it stands and
however it was put together, has one entry for each of its names: a text that
defines a name twice is not well formed.
-/

namespace MvvmSymbols.Document

/-- In each table of the node the names are distinct. -/
inductive Node.Distinct : Node → Prop
  | scalar (span : Span) (value : Scalar) : Distinct (.scalar span value)
  | list (span : Span) {items : List Node} (hitems : ∀ n ∈ items, Distinct n) :
      Distinct (.list span items)
  | series (span : Span) {items : List Node} (hitems : ∀ n ∈ items, Distinct n) :
      Distinct (.series span items)
  | table (form : TableForm) (span : Option Span) {entries : List (Key × Node)}
      (hnames : (keyNames entries).Nodup) (hvalues : ∀ e ∈ entries, Distinct e.2) :
      Distinct (.table form span entries)

theorem Node.Distinct.items {n : Node} (h : n.Distinct) {items : List Node} {span : Span}
    (hn : n = .list span items ∨ n = .series span items) : ∀ m ∈ items, m.Distinct := by
  rcases hn with rfl | rfl
  all_goals
    cases h
    assumption

/-- The names of the table are distinct, and those of the tables in it. -/
structure Table.Distinct (t : Table) : Prop where
  names : (keyNames t.entries).Nodup
  values : ∀ e ∈ t.entries, e.2.Distinct

namespace Table

theorem find?_eq_none_iff {t : Table} {name : String} :
    t.find? name = none ↔ name ∉ keyNames t.entries := by
  refine ⟨?_, find?_eq_none_of_not_mem⟩
  intro hnone hmem
  obtain ⟨e, he, rfl⟩ := List.mem_map.mp hmem
  have hsome := List.find?_eq_none.mp (Option.map_eq_none_iff.mp hnone) e he
  exact hsome (decide_eq_true rfl)

theorem mem_of_find? {t : Table} {name : String} {n : Node} (h : t.find? name = some n) :
    ∃ key : Key, key.name = name ∧ (key, n) ∈ t.entries := by
  obtain ⟨e, he, rfl⟩ := Option.map_eq_some_iff.mp h
  exact ⟨e.1, by simpa using List.find?_some he, List.mem_of_find?_eq_some he⟩

namespace Distinct

variable {t : Table}

theorem empty (form : TableForm) (span : Option Span) : Distinct ⟨form, span, []⟩ :=
  ⟨List.nodup_nil, nofun⟩

theorem toNode (ht : t.Distinct) : t.toNode.Distinct := .table _ _ ht.names ht.values

theorem ofNode {form : TableForm} {span : Option Span} {entries : List (Key × Node)}
    (h : (Node.table form span entries).Distinct) (form' : TableForm) (span' : Option Span) :
    Distinct ⟨form', span', entries⟩ := by
  cases h with
  | table _ _ hnames hvalues => exact ⟨hnames, hvalues⟩

theorem find? (ht : t.Distinct) {name : String} {n : Node} (h : t.find? name = some n) :
    n.Distinct := by
  obtain ⟨key, -, hmem⟩ := mem_of_find? h
  exact ht.values _ hmem

theorem push (ht : t.Distinct) {key : Key} {value : Node} (hfresh : t.find? key.name = none)
    (hvalue : value.Distinct) : (t.push key value).Distinct where
  names := by
    have hnew := find?_eq_none_iff.mp hfresh
    rw [Table.push, keyNames, List.map_append]
    refine ht.names.append (List.nodup_singleton _) ?_
    intro name hname hkey
    rw [List.mem_singleton.mp hkey] at hname
    exact hnew hname
  values e he := by
    rcases List.mem_append.mp he with he | he
    · exact ht.values e he
    · rw [List.mem_singleton.mp he]
      exact hvalue

theorem set (ht : t.Distinct) (name : String) {value : Node} (hvalue : value.Distinct) :
    (t.set name value).Distinct where
  names := by
    have hsame : keyNames (t.set name value).entries = keyNames t.entries := by
      rw [Table.set, keyNames, keyNames, List.map_map]
      refine List.map_congr_left fun e _ => ?_
      by_cases hname : e.1.name = name <;> simp [hname]
    rw [hsame]
    exact ht.names
  values e he := by
    obtain ⟨old, hold, rfl⟩ := List.mem_map.mp he
    split
    · exact hvalue
    · exact ht.values old hold

theorem erase (ht : t.Distinct) (name : String) : (t.erase name).Distinct where
  names := ht.names.sublist (List.filter_sublist.map _)
  values e he := ht.values e (List.mem_of_mem_filter he)

end Distinct

theorem find?_erase (t : Table) (name : String) : (t.erase name).find? name = none := by
  rw [find?_eq_none_iff]
  intro hmem
  obtain ⟨e, he, hname⟩ := List.mem_map.mp hmem
  exact of_decide_eq_true (List.mem_filter.mp he).2 hname

/-- What keeps the names of a table distinct. -/
def Preserves (change : Table → Option Table) : Prop :=
  ∀ t t', t.Distinct → change t = some t' → t'.Distinct

/-- A change that keeps names distinct also does so far down in a table. -/
theorem preserves_alter {dotted : Bool} {change : Table → Option Table}
    (hchange : Preserves change) (keys : List Key) : Preserves (alter dotted change keys) := by
  induction keys with
  | nil => exact hchange
  | cons key keys ih =>
      intro t t' ht h
      rw [alter] at h
      split at h
      · rename_i hfresh
        obtain ⟨child, hchild, hpush⟩ := Option.bind_eq_some_iff.mp h
        cases hpush
        exact ht.push hfresh (ih _ _ (.empty _ _) hchild).toNode
      · rename_i form span entries hfind
        split at h
        · cases h
        · obtain ⟨child, hchild, hset⟩ := Option.bind_eq_some_iff.mp h
          cases hset
          exact ht.set _ (ih _ _ (.ofNode (ht.find? hfind) _ _) hchild).toNode
      · rename_i span items hfind
        have hitems := (ht.find? hfind).items (Or.inr rfl)
        split at h
        · rename_i form last entries hlast
          obtain ⟨child, hchild, hset⟩ := Option.bind_eq_some_iff.mp h
          cases hset
          have hentered : (Node.table form last entries).Distinct :=
            hitems _ (List.mem_of_getLast? hlast)
          refine ht.set _ (.series span ?_)
          rw [List.forall_mem_append, List.forall_mem_singleton]
          exact ⟨fun n hn => hitems n ((List.dropLast_sublist items).subset hn),
            (ih _ _ (.ofNode hentered _ _) hchild).toNode⟩
        · cases h
      · cases h

/-- A name that is there already is refused, so what is inserted is new. -/
theorem preserves_insertNew {dotted : Bool} {key : Key} {value : Node}
    (hvalue : value.Distinct) : Preserves (insertNew dotted key value) := by
  intro t t' ht h
  rw [insertNew] at h
  split at h
  · cases h
  · rename_i hfree
    cases h
    rw [not_or, Option.not_isSome_iff_eq_none] at hfree
    exact ht.push hfree.2 hvalue

/-- The entries of one table, added one after another. -/
theorem preserves_addAll {es : List Entry} (hvalues : ∀ e ∈ es, e.value.Distinct) :
    Preserves (addAll · es) := by
  intro t t' ht h
  induction es generalizing t with
  | nil =>
      cases h
      exact ht
  | cons e es ih =>
      obtain ⟨hvalue, hrest⟩ := List.forall_mem_cons.mp hvalues
      obtain ⟨added, hadd, hadded⟩ := Option.bind_eq_some_iff.mp h
      exact ih hrest _ (preserves_alter (preserves_insertNew hvalue) _ _ _ ht hadd) hadded

/-- The pairs between braces make a table, or are refused. -/
theorem distinct_ofPairs? {span : Span} {es : List Entry} {n : Node}
    (hvalues : ∀ e ∈ es, e.value.Distinct) (h : ofPairs? span es = some n) : n.Distinct := by
  obtain ⟨t, ht, rfl⟩ := Option.map_eq_some_iff.mp h
  have hadded := preserves_addAll hvalues _ _ (.empty _ _) ht
  exact .table _ _ hadded.names hadded.values

end Table

/-- A section is placed under its header, in a table that is new or was only opened on
the way to another one. -/
theorem Section.preserves_place {s : Section} (hvalues : ∀ e ∈ s.entries, e.value.Distinct) :
    Table.Preserves s.place := by
  intro parent parent' hparent h
  have htable {before : List (Key × Node)} {form : TableForm} {span : Option Span} {t : Table}
      (hbefore : (Node.table form span before).Distinct) (ht : s.table? before = some t) :
      t.Distinct :=
    Table.preserves_addAll hvalues _ _ (.ofNode hbefore _ _) ht
  have hempty : (Node.table .header none []).Distinct := .table _ _ List.nodup_nil nofun
  rw [Section.place] at h
  split at h
  · obtain ⟨t, ht, h⟩ := Option.bind_eq_some_iff.mp h
    have hlast := (htable hempty ht).toNode
    split at h
    · rename_i hfresh
      cases h
      refine hparent.push hfresh (.series _ ?_)
      rwa [List.forall_mem_singleton]
    · rename_i span items hfind
      cases h
      refine hparent.set _ (.series _ ?_)
      rw [List.forall_mem_append, List.forall_mem_singleton]
      exact ⟨(hparent.find? hfind).items (Or.inr rfl), hlast⟩
    · cases h
  · split at h
    · rename_i hfresh
      obtain ⟨t, ht, h⟩ := Option.bind_eq_some_iff.mp h
      cases h
      exact hparent.push hfresh (htable hempty ht).toNode
    · rename_i span before hfind
      obtain ⟨t, ht, h⟩ := Option.bind_eq_some_iff.mp h
      cases h
      exact (hparent.erase _).push (Table.find?_erase _ _)
        (htable (hparent.find? hfind) ht).toNode
    · cases h

/-- A document is built section by section, and a repeated name stops it. -/
theorem Table.distinct_ofSections {es : List Entry} {ss : List Section} {t : Table}
    (hentries : ∀ e ∈ es, e.value.Distinct)
    (hsections : ∀ s ∈ ss, ∀ e ∈ s.entries, e.value.Distinct)
    (h : ofSections es ss = some t) : t.Distinct := by
  obtain ⟨root, hroot, hplaced⟩ := Option.bind_eq_some_iff.mp h
  have hstart : root.Distinct := preserves_addAll hentries _ _ (.empty _ _) hroot
  clear hroot h
  induction ss generalizing root with
  | nil =>
      cases hplaced
      exact hstart
  | cons s ss ih =>
      obtain ⟨hs, hrest⟩ := List.forall_mem_cons.mp hsections
      obtain ⟨next, hnext, hplaced⟩ := Option.bind_eq_some_iff.mp hplaced
      exact ih hrest _ hplaced
        (preserves_alter (Section.preserves_place hs) _ _ _ hstart hnext)

/-- What a reader reads has a property, whatever the text. -/
def Yields {α : Type} (P : α → Prop) (r : Reader α) : Prop :=
  ∀ cs a rest, r cs = some (a, rest) → P a

section Readers

variable {value : Reader Node}

theorem yields_readItems (hvalue : Yields Node.Distinct value) :
    Yields (∀ n ∈ ·, n.Distinct) (readItems value) := by
  intro cs items rest h
  fun_induction readItems value cs generalizing items rest with
  | case1 =>
      cases h
      exact nofun
  | case3 _ item _ _ _ _ hitem =>
      cases h
      rw [List.forall_mem_singleton]
      exact hvalue _ _ _ hitem
  | case4 _ item _ _ _ _ _ hitem ih =>
      obtain ⟨⟨items', rest'⟩, hrest, heq⟩ := Option.map_eq_some_iff.mp h
      cases heq
      exact List.forall_mem_cons.mpr ⟨hvalue _ _ _ hitem, ih _ _ hrest⟩
  | case2 | case5 | case6 => cases h

theorem yields_readEntry (hvalue : Yields Node.Distinct value) :
    Yields (fun e : Entry => e.value.Distinct) (readEntry value) := by
  intro cs e rest h
  rw [readEntry] at h
  split at h
  · obtain ⟨⟨n, rest'⟩, hn, heq⟩ := Option.map_eq_some_iff.mp h
    cases heq
    exact hvalue _ _ _ hn
  · cases h

theorem yields_readPairs (hvalue : Yields Node.Distinct value) :
    Yields (fun es : List Entry => ∀ e ∈ es, e.value.Distinct) (readPairs value) := by
  intro cs es rest h
  fun_induction readPairs value cs generalizing es rest with
  | case1 _ _ _ hentry =>
      cases h
      rw [List.forall_mem_singleton]
      exact yields_readEntry hvalue _ _ _ hentry
  | case2 _ _ _ hentry _ ih =>
      obtain ⟨⟨es', rest'⟩, hrest, heq⟩ := Option.map_eq_some_iff.mp h
      cases heq
      exact List.forall_mem_cons.mpr ⟨yields_readEntry hvalue _ _ _ hentry, ih _ _ hrest⟩
  | case3 | case4 => cases h

theorem yields_readBraces (hvalue : Yields Node.Distinct value) :
    Yields (fun es : List Entry => ∀ e ∈ es, e.value.Distinct) (readBraces value) := by
  intro cs es rest h
  rw [readBraces] at h
  split at h
  · cases h
    exact nofun
  · exact yields_readPairs hvalue _ _ _ h

end Readers

/-- By induction on the depth: a list or a table in braces is read with the reader of
one level less. -/
theorem yields_readValue (depth : Nat) : Yields Node.Distinct (readValue depth) := by
  have hscalar (cs : List Char) (n : Node) (rest : List Char)
      (h : (readScalar cs).map (fun p => (Node.scalar ⟨cs.length, p.2.length⟩ p.1, p.2)) =
        some (n, rest)) : n.Distinct := by
    obtain ⟨p, -, heq⟩ := Option.map_eq_some_iff.mp h
    cases heq
    exact .scalar _ _
  induction depth with
  | zero => exact hscalar
  | succ depth ih =>
      intro cs n rest h
      rw [readValue.eq_def] at h
      dsimp only at h
      split at h
      · obtain ⟨⟨items, rest'⟩, hitems, heq⟩ := Option.bind_eq_some_iff.mp h
        cases heq
        exact .list _ (yields_readItems ih _ _ _ hitems)
      · obtain ⟨⟨es, rest'⟩, hes, h⟩ := Option.bind_eq_some_iff.mp h
        obtain ⟨table, htable, heq⟩ := Option.bind_eq_some_iff.mp h
        cases heq
        exact Table.distinct_ofPairs? (yields_readBraces ih _ _ _ hes) htable
      · exact hscalar _ _ _ h

/-- The entries of a line have distinct names in their values. -/
def Statement.Distinct : Statement → Prop
  | .entry e => e.value.Distinct
  | .header .. => True

theorem yields_readHeader (start : Nat) : Yields Statement.Distinct (readHeader start) := by
  intro cs s rest h
  rw [readHeader.eq_def] at h
  split at h
  all_goals
    obtain ⟨⟨path, cs'⟩, -, h⟩ := Option.bind_eq_some_iff.mp h
    dsimp only at h
    split at h
    · cases h
      trivial
    · cases h

theorem yields_readStatement : Yields Statement.Distinct readStatement := by
  intro cs s rest h
  rw [readStatement.eq_def] at h
  split at h
  · exact yields_readHeader _ _ _ _ h
  · obtain ⟨⟨e, rest'⟩, he, heq⟩ := Option.map_eq_some_iff.mp h
    cases heq
    exact yields_readEntry (yields_readValue _) _ _ _ he

/-- Each line of a text is read on its own. -/
theorem distinct_readStatements {cs : List Char} {ss : List Statement}
    (h : readStatements cs = some ss) : ∀ s ∈ ss, s.Distinct := by
  fun_induction readStatements cs generalizing ss with
  | case1 =>
      cases h
      exact nofun
  | case2 _ _ _ _ _ ih => exact ih h
  | case6 _ _ _ _ _ _ _ _ hread ih =>
      obtain ⟨rest, hrest, rfl⟩ := Option.map_eq_some_iff.mp h
      exact List.forall_mem_cons.mpr ⟨yields_readStatement _ _ _ hread, ih hrest⟩
  | case3 | case4 | case5 | case7 => cases h

theorem distinct_sections {ss : List Statement} (h : ∀ s ∈ ss, s.Distinct) :
    (∀ e ∈ (sections ss).1, e.value.Distinct) ∧
      ∀ s ∈ (sections ss).2, ∀ e ∈ s.entries, e.value.Distinct := by
  induction ss with
  | nil => exact ⟨nofun, nofun⟩
  | cons s ss ih =>
      obtain ⟨hs, hrest⟩ := List.forall_mem_cons.mp h
      obtain ⟨hentries, hsections⟩ := ih hrest
      cases s with
      | entry e => exact ⟨List.forall_mem_cons.mpr ⟨hs, hentries⟩, hsections⟩
      | header _ _ _ => exact ⟨nofun, List.forall_mem_cons.mpr ⟨hentries, hsections⟩⟩

/-- A document that is well formed says nothing twice. -/
theorem distinct_read {text : String} {t : Table} (h : read text = some t) : t.Distinct := by
  obtain ⟨ss, hss, ht⟩ := Option.bind_eq_some_iff.mp h
  obtain ⟨hentries, hsections⟩ := distinct_sections (distinct_readStatements hss)
  exact Table.distinct_ofSections hentries hsections ht

end MvvmSymbols.Document
