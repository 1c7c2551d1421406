import MvvmSymbols.Document

/-!
Documents whose keys are all plain, with no key twice in one table. Each group of
settings under a header becomes a table with the entries in the order of their
lines.
-/

namespace MvvmSymbols.Document

def keyNames (es : List (Key × Node)) : List String := es.map (·.1.name)

namespace Table

theorem find?_eq_none_of_not_mem {t : Table} {name : String}
    (hfresh : name ∉ keyNames t.entries) : t.find? name = none := by
  have hnone : t.entries.find? (·.1.name = name) = none := by
    refine List.find?_eq_none.mpr fun e hmem heq => hfresh ?_
    rw [← of_decide_eq_true heq]
    exact List.mem_map_of_mem hmem
  rw [find?, hnone, Option.map_none]

/-- Steps that each add an entry under a new name add them all, in order. -/
theorem foldlM_push {α : Type} {step : Table → α → Option Table} (entry : α → Key × Node)
    (hstep : ∀ (t : Table) (a : α), t.form = .header →
      (entry a).1.name ∉ keyNames t.entries → step t a = some (t.push (entry a).1 (entry a).2))
    (as : List α) {t : Table} (hform : t.form = .header)
    (hnodup : (keyNames (t.entries ++ as.map entry)).Nodup) :
    as.foldlM step t = some { t with entries := t.entries ++ as.map entry } := by
  induction as generalizing t with
  | nil => simp
  | cons a as ih =>
      have hentries : t.entries ++ (a :: as).map entry =
          (t.push (entry a).1 (entry a).2).entries ++ as.map entry := by
        simp [push]
      have hfresh : (entry a).1.name ∉ keyNames t.entries := by
        intro hmem
        rw [keyNames, List.map_append] at hnodup
        exact (List.nodup_append.mp hnodup).2.2 _ hmem _ List.mem_cons_self rfl
      have hrest := ih (show (t.push (entry a).1 (entry a).2).form = .header from hform)
        (by rwa [← hentries])
      rw [List.foldlM_cons, hstep t a hform hfresh, hentries]
      exact hrest

end Table

def Entry.plain (e : Key × Node) : Entry := ⟨⟨[], e.1⟩, e.2⟩

/-- Plain entries of different names make up the table that they list. -/
theorem Table.addAll_plain (span : Option Span) {es : List (Key × Node)}
    (hnodup : (keyNames es).Nodup) :
    (Table.mk .header span []).addAll (es.map .plain) = some ⟨.header, span, es⟩ := by
  have hstep (t : Table) (e : Key × Node) (hform : t.form = .header)
      (hfresh : e.1.name ∉ keyNames t.entries) : t.add (.plain e) = some (t.push e.1 e.2) := by
    simp [add, Entry.plain, alter, insertNew, hform, find?_eq_none_of_not_mem hfresh]
  have hfold := foldlM_push id hstep es (t := ⟨.header, span, []⟩) rfl
    (by simpa using hnodup)
  rw [addAll, List.foldlM_map]
  simpa using hfold

def settings (es : List (Key × Node)) : List Statement := es.map fun e => .entry (.plain e)

/-- Before the first header, settings belong to the document itself. -/
theorem sections_settings (es : List (Key × Node)) (rest : List Statement) :
    sections (settings es ++ rest) = (es.map .plain ++ (sections rest).1, (sections rest).2) := by
  induction es with
  | nil => rfl
  | cons e es ih =>
      rw [settings, List.map_cons, List.cons_append, sections, ← settings, ih]
      rfl

/-- A plain header and the settings under it, each of another name. -/
structure Group where
  key : Key
  span : Span
  entries : List (Key × Node)
  nodup : (keyNames entries).Nodup

namespace Group

def statements (g : Group) : List Statement :=
  .header false ⟨[], g.key⟩ g.span :: settings g.entries

def toSection (g : Group) : Section := ⟨false, ⟨[], g.key⟩, g.span, g.entries.map .plain⟩

def entry (g : Group) : Key × Node :=
  (g.key, .table .header (some g.toSection.wholeSpan) g.entries)

/-- Each group is a section, and nothing stands in front of the first. -/
theorem sections_statements (gs : List Group) :
    sections (gs.flatMap statements) = ([], gs.map toSection) := by
  induction gs with
  | nil => rfl
  | cons g gs ih =>
      rw [List.flatMap_cons, statements, List.cons_append, sections, sections_settings, ih]
      simp [toSection]

/-- A group of a new name goes to the end of the document. -/
theorem place_toSection (g : Group) {t : Table}
    (hfresh : g.key.name ∉ keyNames t.entries) :
    g.toSection.place t = some (t.push g.entry.1 g.entry.2) := by
  have htable : g.toSection.table? [] =
      some ⟨.header, some g.toSection.wholeSpan, g.entries⟩ :=
    Table.addAll_plain _ g.nodup
  have hfind : t.find? g.toSection.path.key.name = none := Table.find?_eq_none_of_not_mem hfresh
  rw [Section.place, hfind, htable]
  rfl

theorem ofSections_plain {gs : List Group} (hnodup : (keyNames (gs.map entry)).Nodup) :
    Table.ofSections [] (gs.map toSection) = some ⟨.header, none, gs.map entry⟩ := by
  have hstep (t : Table) (g : Group) (_ : t.form = .header)
      (hfresh : g.entry.1.name ∉ keyNames t.entries) :
      t.alter false g.toSection.place g.toSection.path.parents =
        some (t.push g.entry.1 g.entry.2) :=
    g.place_toSection hfresh
  have hfold := Table.foldlM_push entry hstep gs (t := ⟨.header, none, []⟩) rfl
    (by simpa using hnodup)
  rw [Table.ofSections, Table.addAll, List.foldlM_nil, Option.pure_def, Option.bind_eq_bind,
    Option.bind_some, List.foldlM_map]
  exact hfold

/-- A text of plain groups, no two of one name, has a table for each. -/
theorem read_plain {text : String} {gs : List Group}
    (hstatements : readStatements (dropMark text.toList) = some (gs.flatMap statements))
    (hnodup : (keyNames (gs.map entry)).Nodup) :
    Document.read text = some ⟨.header, none, gs.map entry⟩ := by
  rw [Document.read, hstatements]
  simp only [Option.bind_eq_bind, Option.bind_some, sections_statements]
  exact ofSections_plain hnodup

end Group

end MvvmSymbols.Document
