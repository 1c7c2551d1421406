import MvvmSymbols.Document.Name

/-!
Building tables entry by entry. A table is defined once: by its header, by its
braces, or by the dotted keys under one header. What one of these has defined the
others may not add to.
-/

namespace MvvmSymbols.Document

/-- A table that is being built. -/
structure Table where
  form : TableForm
  span : Option Span
  entries : List (Key × Node)

structure Entry where
  path : Path
  value : Node

namespace Table

def toNode (t : Table) : Node := .table t.form t.span t.entries

def find? (t : Table) (name : String) : Option Node :=
  (t.entries.find? (·.1.name = name)).map (·.2)

def push (t : Table) (key : Key) (value : Node) : Table :=
  { t with entries := t.entries ++ [(key, value)] }

def set (t : Table) (name : String) (value : Node) : Table :=
  { t with entries := t.entries.map fun e => if e.1.name = name then (e.1, value) else e }

def erase (t : Table) (name : String) : Table :=
  { t with entries := t.entries.filter (·.1.name ≠ name) }

/-- Changes the table that the keys lead to from here, and makes the tables on
the way that do not exist. A series is entered at its last table. Dotted keys
lead only through tables that dotted keys or longer headers made. -/
def alter (dotted : Bool) (change : Table → Option Table) : List Key → Table → Option Table
  | [], t => change t
  | key :: keys, t =>
    match t.find? key.name with
    | none => do
      let child ← alter dotted change keys ⟨if dotted then .dotted else .implied, none, []⟩
      return t.push key child.toNode
    | some (.table form span entries) =>
      if form = .closed ∨ (dotted ∧ form = .header) then none
      else do
        let child ← alter dotted change keys ⟨form, span, entries⟩
        return t.set key.name child.toNode
    | some (.series span items) =>
      match items.getLast? with
      | some (.table form last entries) => do
        let child ← alter dotted change keys ⟨form, last, entries⟩
        return t.set key.name (.series span (items.dropLast ++ [child.toNode]))
      | _ => none
    | some _ => none

/-- Adds a value under a key that is new. A dotted key has to end in a table
that dotted keys made, and a plain one in a table that they did not make. -/
def insertNew (dotted : Bool) (key : Key) (value : Node) (t : Table) : Option Table :=
  if dotted ≠ (t.form = .dotted : Bool) ∨ (t.find? key.name).isSome then none
  else some (t.push key value)

def add (t : Table) (e : Entry) : Option Table :=
  let dotted := !e.path.parents.isEmpty
  t.alter true (insertNew dotted e.path.key e.value) e.path.parents

def addAll (t : Table) (es : List Entry) : Option Table := es.foldlM add t

/-- A table between braces: when its entries are in, it is closed. -/
def ofPairs? (span : Span) (es : List Entry) : Option Node :=
  (addAll ⟨.header, none, []⟩ es).map fun t => .table .closed (some span) t.entries

end Table

/-- A header with the entries under it. -/
structure Section where
  /-- In double brackets: the table is a further one of a series. -/
  repeated : Bool
  path : Path
  span : Span
  entries : List Entry

namespace Section

def wholeSpan (s : Section) : Span :=
  match s.entries.getLast? with
  | some e => ⟨s.span.start, (e.value.span?.getD s.span).stop⟩
  | none => s.span

def table? (s : Section) (before : List (Key × Node)) : Option Table :=
  Table.addAll ⟨.header, some s.wholeSpan, before⟩ s.entries

/-- Puts a section into the table that it belongs to. A table that has been the
parent of earlier headers moves to the end. -/
def place (s : Section) (parent : Table) : Option Table :=
  let key := s.path.key
  if s.repeated then do
    let table ← s.table? []
    match parent.find? key.name with
    | none => return parent.push key (.series s.wholeSpan [table.toNode])
    | some (.series span items) =>
      return parent.set key.name
        (.series ⟨span.start, s.wholeSpan.stop⟩ (items ++ [table.toNode]))
    | some _ => none
  else
    match parent.find? key.name with
    | none => do
      let table ← s.table? []
      return parent.push key table.toNode
    | some (.table .implied _ before) => do
      let table ← s.table? before
      return (parent.erase key.name).push key table.toNode
    | some _ => none

end Section

/-- A document's table: the entries before the first header, then the sections. -/
def Table.ofSections (es : List Entry) (ss : List Section) : Option Table := do
  let root ← Table.addAll ⟨.header, none, []⟩ es
  ss.foldlM (fun t s => t.alter false s.place s.path.parents) root

end MvvmSymbols.Document
