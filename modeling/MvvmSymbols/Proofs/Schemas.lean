import MvvmSymbols.Schema

/-!
What schemas mean. A schema is plain data itself, and a tree meets it if it meets
each of its keywords; a keyword that is no condition, such as a description or a
default, is passed over. From this come the conditions that schemas stand for, one
for each way to build a schema.
-/

namespace MvvmSymbols

theorem Kind.name_inj {k k' : Kind} : k.name = k'.name ↔ k = k' := by
  cases k <;> cases k' <;> simp [Kind.name]

namespace Tree

def items : Tree → List Tree
  | .list ts => ts
  | _ => []

def fields : Tree → List (String × Tree)
  | .record fs => fs
  | _ => []

/-- The kind of a value. Numbers have none of the kinds that schemas name. -/
def kind? : Tree → Option Kind
  | .null => some .null
  | .boolean _ => some .boolean
  | .text _ => some .text
  | .list _ => some .list
  | .record _ => some .record
  | .integer _ | .real _ => none

def HasType (t : Tree) : Tree → Prop
  | .text name => ∃ k, t.kind? = some k ∧ k.name = name
  | .list names => ∃ k, t.kind? = some k ∧ .text k.name ∈ names
  | _ => False

end Tree

def ExactlyOne : List Prop → Prop
  | [] => False
  | p :: ps => (p ∧ ∀ q ∈ ps, ¬q) ∨ (¬p ∧ ExactlyOne ps)

/-- Of conditions that exclude each other, one holds exactly if any does. -/
theorem exactlyOne_iff {ps : List Prop} (hexclude : ps.Pairwise fun p q => ¬(p ∧ q)) :
    ExactlyOne ps ↔ ∃ p ∈ ps, p := by
  induction ps with
  | nil => simp [ExactlyOne]
  | cons p ps ih =>
      obtain ⟨hfirst, hrest⟩ := List.pairwise_cons.mp hexclude
      simp only [ExactlyOne, ih hrest, List.mem_cons, exists_eq_or_imp]
      constructor
      · rintro (⟨hp, -⟩ | ⟨-, hps⟩)
        · exact .inl hp
        · exact .inr hps
      · intro h
        by_cases hp : p
        · exact .inl ⟨hp, fun q hq hq' => hfirst q hq ⟨hp, hq'⟩⟩
        · exact .inr ⟨hp, h.resolve_left hp⟩

namespace Schema

mutual

/-- The trees that meet a schema, if `refers` says which ones meet the schemas that
it refers to. A reference stands for itself, whatever is beside it. -/
def meaning (refers : String → Tree → Prop) : Tree → Tree → Prop
  | .record keywords, t =>
    match keywords.find? (·.1 = "$ref") with
    | some (_, .text ref) => refers ref t
    | some _ => False
    | none => keywordsMeaning refers keywords t
  | .boolean accepts, _ => accepts
  | _, _ => False

def keywordsMeaning (refers : String → Tree → Prop) : List (String × Tree) → Tree → Prop
  | [], _ => True
  | (keyword, value) :: rest, t =>
    (match keyword with
      | "type" => t.HasType value
      | "enum" => t ∈ value.items
      | "items" => ∀ x ∈ t.items, meaning refers value x
      | "properties" => ∀ p ∈ propertyMeanings refers value, ∀ x, (p.1, x) ∈ t.fields → p.2 x
      | "oneOf" => ExactlyOne ((meanings refers value).map (· t))
      | "allOf" => ∀ p ∈ meanings refers value, p t
      | _ => True) ∧
      keywordsMeaning refers rest t

def meanings (refers : String → Tree → Prop) : Tree → List (Tree → Prop)
  | .list schemas => listMeanings refers schemas
  | _ => []

def listMeanings (refers : String → Tree → Prop) : List Tree → List (Tree → Prop)
  | [] => []
  | s :: ss => meaning refers s :: listMeanings refers ss

def propertyMeanings (refers : String → Tree → Prop) : Tree → List (String × (Tree → Prop))
  | .record properties => fieldMeanings refers properties
  | _ => []

def fieldMeanings (refers : String → Tree → Prop) :
    List (String × Tree) → List (String × (Tree → Prop))
  | [] => []
  | (name, s) :: ps => (name, meaning refers s) :: fieldMeanings refers ps

end

def Takes (s : Schema) (refers : String → Tree → Prop) (t : Tree) : Prop :=
  meaning refers (.record s.fields) t

variable {refers : String → Tree → Prop} {t : Tree}

theorem listMeanings_trees (ss : List Schema) :
    listMeanings refers (trees ss) = ss.map (·.Takes refers) := by
  induction ss with
  | nil => rfl
  | cons s ss ih =>
      rw [trees, listMeanings, ih]
      rfl

theorem fieldMeanings_propertyTrees (ps : List (String × Schema)) :
    fieldMeanings refers (propertyTrees ps) = ps.map fun p => (p.1, p.2.Takes refers) := by
  induction ps with
  | nil => rfl
  | cons p ps ih =>
      rw [propertyTrees, fieldMeanings, ih]
      rfl

theorem hasType_kindsTree {kinds : List Kind} :
    t.HasType (kindsTree kinds) ↔ ∃ k ∈ kinds, t.kind? = some k := by
  rw [kindsTree.eq_def]
  split
  · simp [Tree.HasType, Kind.name_inj]
  · simp [Tree.HasType, Kind.name_inj, and_comm]

theorem keywordsMeaning_cons (k : String × Tree) (ks : List (String × Tree)) :
    keywordsMeaning refers (k :: ks) t ↔
      keywordsMeaning refers [k] t ∧ keywordsMeaning refers ks t :=
  and_congr (and_iff_left trivial).symm Iff.rfl

/-- Keywords are conditions that all hold, in whatever groups they are taken. -/
theorem keywordsMeaning_append (ks ks' : List (String × Tree)) :
    keywordsMeaning refers (ks ++ ks') t ↔
      keywordsMeaning refers ks t ∧ keywordsMeaning refers ks' t := by
  induction ks with
  | nil => exact (and_iff_right trivial).symm
  | cons k ks ih =>
      rw [List.cons_append, keywordsMeaning_cons, ih, keywordsMeaning_cons k ks, and_assoc]

-- Each way to build a schema comes to the conditions of its few keywords.

attribute [local simp] Takes fields meaning keywordsMeaning

theorem takes_plain {kinds : List Kind} :
    (plain kinds).Takes refers t ↔ ∃ k ∈ kinds, t.kind? = some k := by
  rw [← hasType_kindsTree]
  simp

theorem takes_constant {value : String} : (constant value).Takes refers t ↔ t = .text value := by
  have hkeywords : (constant value).Takes refers t ↔
      t.HasType (.text "string") ∧ t = .text value := by
    simp [Tree.items]
  rw [hkeywords, and_iff_right_iff_imp]
  rintro rfl
  exact ⟨.text, rfl, rfl⟩

theorem takes_list {items : Schema} :
    (list items).Takes refers t ↔ ∃ ts, t = .list ts ∧ ∀ x ∈ ts, items.Takes refers x := by
  have hkeywords : (list items).Takes refers t ↔
      t.HasType (.text "array") ∧ ∀ x ∈ t.items, items.Takes refers x := by
    simp
  rw [hkeywords]
  cases t <;> simp [Tree.HasType, Tree.kind?, Kind.name, Tree.items]

/-- A record is taken if its known fields are; others may stand beside them. -/
theorem takes_record {properties : List (String × Schema)} :
    (record properties).Takes refers t ↔ ∃ fs, t = .record fs ∧
      ∀ p ∈ properties, ∀ x, (p.1, x) ∈ fs → p.2.Takes refers x := by
  have hkeywords : (record properties).Takes refers t ↔
      t.HasType (.text "object") ∧
        ∀ p ∈ properties, ∀ x, (p.1, x) ∈ t.fields → p.2.Takes refers x := by
    have hproperties := List.forall_mem_map
      (f := fun p : String × Schema => (p.1, p.2.Takes refers))
      (l := properties) (P := fun p => ∀ x, (p.1, x) ∈ t.fields → p.2 x)
    rw [← hproperties]
    simp [propertyMeanings, fieldMeanings_propertyTrees]
  rw [hkeywords]
  cases t <;> simp [Tree.HasType, Tree.kind?, Kind.name, Tree.fields]

theorem takes_oneOf {choices : List Schema} :
    (oneOf choices).Takes refers t ↔ ExactlyOne (choices.map (·.Takes refers t)) := by
  simp [meanings, listMeanings_trees, Function.comp_def]

theorem takes_allOf {parts : List Schema} :
    (allOf parts).Takes refers t ↔ ∀ s ∈ parts, s.Takes refers t := by
  simp [meanings, listMeanings_trees]

theorem takes_reference {name : String} :
    (reference name).Takes refers t ↔ refers ("#/definitions/" ++ name) t := by
  simp

theorem takes_described {text : String} {s : Schema} :
    (described text s).Takes refers t ↔ s.Takes refers t := by
  simp

theorem takes_withDefault {value : Tree} {s : Schema} :
    (withDefault value s).Takes refers t ↔ s.Takes refers t := by
  simp

end Schema

namespace Tree

/-- The definition that a reference names. The names of definitions need no escapes. -/
def definition? (root : Tree) (ref : String) : Option Tree :=
  ((root.field? "definitions").bind fun definitions =>
    definitions.fields.find? fun d => "#/definitions/" ++ d.1 = ref).map (·.2)

/-- The trees that meet a definition, its references followed to some depth. -/
def meetsDefinition (root : Tree) : Nat → String → Tree → Prop
  | 0, _, _ => False
  | depth + 1, ref, t =>
    ∃ s, root.definition? ref = some s ∧ Schema.meaning (root.meetsDefinition depth) s t

/-- Each reference that is followed uses up one level of depth. -/
theorem meetsDefinition_succ {root : Tree} {ref : String} {s t : Tree}
    (hdefinition : root.definition? ref = some s) (depth : Nat) :
    root.meetsDefinition (depth + 1) ref t ↔ Schema.meaning (root.meetsDefinition depth) s t := by
  constructor
  · rintro ⟨s', hs', h⟩
    cases hdefinition.symm.trans hs'
    exact h
  · exact fun h => ⟨s, hdefinition, h⟩

/-- The tree meets the schema, however far from some depth on references are followed. -/
def Meets (root t : Tree) : Prop :=
  ∃ depth, ∀ more, Schema.meaning (root.meetsDefinition (depth + more)) root t

end Tree

namespace SchemaDocument

variable {refers : String → Tree → Prop} {t : Tree}

/-- The title and the definitions of a schema ask for nothing. -/
theorem meaning_toTree (d : SchemaDocument) :
    Schema.meaning refers d.toTree t ↔ d.schema.Takes refers t := by
  have hfind : d.toTree.fields.find? (·.1 = "$ref") = d.schema.fields.find? (·.1 = "$ref") := by
    rw [toTree, Tree.fields]
    split <;> simp
  have hkeywords : Schema.keywordsMeaning refers d.toTree.fields t ↔
      Schema.keywordsMeaning refers d.schema.fields t := by
    rw [toTree, Tree.fields, Schema.keywordsMeaning_append, Schema.keywordsMeaning_append]
    split <;> simp [Schema.keywordsMeaning]
  rw [Schema.Takes, Schema.meaning, ← hfind, ← hkeywords]
  rfl

end SchemaDocument

end MvvmSymbols
