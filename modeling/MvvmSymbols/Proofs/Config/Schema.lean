import MvvmSymbols.Config.Schema
import MvvmSymbols.Proofs.Config.RoundTrip
import MvvmSymbols.Proofs.Config.Settings
import MvvmSymbols.Proofs.Schemas

/-!
The published schema against the loader. A document that meets the schema stands
for a configuration, and the document of every configuration meets it.
-/

namespace MvvmSymbols

open Document (Content Node Table read)

section

variable {refers : String → Tree → Prop} {t : Tree}

/-- The schema of a variant takes the names of the variants. It does not offer the
form of a table. -/
theorem Variant.takes_schema : schema.Takes refers t ↔ ∃ v : Variant, t = .text v.name := by
  have hchoices : (all.map fun v => Schema.described v.description (.constant v.name)).map
      (·.Takes refers t) = all.map fun v => t = .text v.name := by
    simp only [List.map_map, Function.comp_def, Schema.takes_described, Schema.takes_constant]
  have hexclude : (all.map fun v => t = .text v.name).Pairwise fun p q => ¬(p ∧ q) := by
    refine List.pairwise_map.mpr (List.Pairwise.imp ?_ (show all.Nodup by decide))
    rintro v w hne ⟨hv, hw⟩
    have hname : v.name = w.name := Tree.text.inj (hv.symm.trans hw)
    have hsame := congrArg ofName? hname
    rw [ofName?_name, ofName?_name] at hsame
    exact hne (Option.some.inj hsame)
  rw [schema, Schema.takes_described, Schema.takes_oneOf, hchoices, exactlyOne_iff hexclude]
  constructor
  · rintro ⟨p, hmem, hp⟩
    obtain ⟨v, -, rfl⟩ := List.mem_map.mp hmem
    exact ⟨v, hp⟩
  · rintro ⟨v, hv⟩
    exact ⟨_, List.mem_map_of_mem v.mem_all, hv⟩

/-- A group of settings for detection as the schema describes it. -/
def DetectionConfig.Fits (t : Tree) : Prop :=
  ∃ fs, t = .record fs ∧ ∀ x, ("disabled_variants", x) ∈ fs →
    ∃ ts, x = .list ts ∧ ∀ y ∈ ts, ∃ v : Variant, y = .text v.name

def TracingConfig.Fits (t : Tree) : Prop :=
  ∃ fs, t = .record fs ∧
    (∀ x, ("filter", x) ∈ fs → x = .null ∨ ∃ s, x = .text s) ∧
      ∀ x, ("with_target", x) ∈ fs → x = .null ∨ ∃ b, x = .boolean b

def Config.Fits (t : Tree) : Prop :=
  ∃ fs, t = .record fs ∧
    (∀ x, ("detection", x) ∈ fs → DetectionConfig.Fits x) ∧
      ∀ x, ("tracing", x) ∈ fs → TracingConfig.Fits x

theorem DetectionConfig.takes_schema
    (hvariants : ∀ t, refers ("#/definitions/" ++ "FrameworkVariant") t ↔
      ∃ v : Variant, t = .text v.name) :
    schema.Takes refers t ↔ Fits t := by
  simp only [schema, Schema.takes_described, Schema.takes_record, Schema.takes_withDefault,
    Schema.takes_list, Schema.takes_reference, List.forall_mem_singleton, hvariants, Fits]

/-- The schema of the group takes null for a setting, which no document can say. -/
theorem TracingConfig.takes_schema : schema.Takes refers t ↔ Fits t := by
  have hfilter (x : Tree) : (∃ k ∈ [Kind.text, .null], x.kind? = some k) ↔
      x = .null ∨ ∃ s, x = .text s := by
    cases x <;> simp [Tree.kind?]
  have hwithTarget (x : Tree) : (∃ k ∈ [Kind.boolean, .null], x.kind? = some k) ↔
      x = .null ∨ ∃ b, x = .boolean b := by
    cases x <;> simp [Tree.kind?]
  simp only [schema, Schema.takes_described, Schema.takes_record, Schema.takes_withDefault,
    Schema.takes_plain, List.forall_mem_cons, List.not_mem_nil, false_imp_iff,
    implies_true, and_true, hfilter, hwithTarget, Fits]

theorem Config.takes_schema
    (hdetection : ∀ t, refers ("#/definitions/" ++ "DetectionConfig") t ↔ DetectionConfig.Fits t)
    (htracing : ∀ t, refers ("#/definitions/" ++ "TracingConfig") t ↔ TracingConfig.Fits t) :
    schema.Takes refers t ↔ Fits t := by
  simp only [schema, Schema.takes_described, Schema.takes_record, Schema.takes_withDefault,
    Schema.takes_allOf, Schema.takes_reference, List.forall_mem_cons, List.not_mem_nil,
    false_imp_iff, implies_true, and_true, hdetection, htracing, Fits]

end

/-- With its references resolved, the published schema asks for what the groups ask
for. -/
theorem Config.meets_schema_iff {t : Tree} : schemaDocument.toTree.Meets t ↔ Fits t := by
  have hvariant (depth : Nat) (t : Tree) :
      schemaDocument.toTree.meetsDefinition (depth + 1) ("#/definitions/" ++ "FrameworkVariant") t ↔
        ∃ v : Variant, t = .text v.name :=
    (Tree.meetsDefinition_succ rfl depth).trans Variant.takes_schema
  have htracing (depth : Nat) (t : Tree) :
      schemaDocument.toTree.meetsDefinition (depth + 1) ("#/definitions/" ++ "TracingConfig") t ↔
        TracingConfig.Fits t :=
    (Tree.meetsDefinition_succ rfl depth).trans TracingConfig.takes_schema
  have hdetection (depth : Nat) (t : Tree) :
      schemaDocument.toTree.meetsDefinition (depth + 2) ("#/definitions/" ++ "DetectionConfig") t ↔
        DetectionConfig.Fits t :=
    (Tree.meetsDefinition_succ rfl _).trans (DetectionConfig.takes_schema (hvariant depth))
  have hfits (depth : Nat) :
      Schema.meaning (schemaDocument.toTree.meetsDefinition (depth + 2)) schemaDocument.toTree t ↔
        Fits t :=
    schemaDocument.meaning_toTree.trans (takes_schema (hdetection depth) (htracing (depth + 1)))
  constructor
  · rintro ⟨depth, h⟩
    exact (hfits depth).mp (h 2)
  · intro h
    refine ⟨2, fun more => ?_⟩
    rw [Nat.add_comm]
    exact (hfits more).mpr h

/-- A setting has a value if plain data has none for it or one that fits. -/
theorem exists_given {α : Type} {P : Content → α → Prop} {s : Setting} (default : α) {t : Table}
    {fs : List (String × Tree)} (hplain : t.content.IsPlain (.record fs))
    (hfits : ∀ x, (s.group, x) ∈ fs → ∃ gs, x = .record gs ∧
      ∀ y, (s.name, y) ∈ gs → ∀ c : Content, c.IsPlain y → ∃ a, P c a) :
    ∃ a, Given P default (t.setting? s) a := by
  cases hsaid : t.setting? s with
  | none => exact ⟨default, .unset⟩
  | some c =>
      rw [Table.setting?, Content.at?_cons] at hsaid
      obtain ⟨g, hg, hc⟩ := Option.bind_eq_some_iff.mp hsaid
      obtain ⟨x, hx, hmem⟩ := hplain.record.2 _ g hg
      obtain ⟨gs, rfl, hvalue⟩ := hfits x hmem
      obtain ⟨y, hy, hmem⟩ := hx.record.2 _ c hc
      obtain ⟨a, ha⟩ := hvalue y hmem c hy
      exact ⟨a, .set ha⟩

theorem exists_areVariants {c : Content} {ts : List Tree} (hc : c.IsPlain (.list ts))
    (hnames : ∀ t ∈ ts, ∃ v : Variant, t = .text v.name) : ∃ vs, c.AreVariants vs := by
  obtain ⟨cs, rfl, hcs⟩ := hc.list
  clear hc
  have hvariants : ∃ vs, List.Forall₂ Content.IsVariant cs vs := by
    induction hcs with
    | nil => exact ⟨[], .nil⟩
    | cons hc _ ih =>
        obtain ⟨⟨v, rfl⟩, hrest⟩ := List.forall_mem_cons.mp hnames
        obtain ⟨vs, hvs⟩ := ih hrest
        exact ⟨v :: vs, .cons (hc.text ▸ .name v) hvs⟩
  obtain ⟨vs, hvs⟩ := hvariants
  exact ⟨vs, .list hvs⟩

theorem Config.exists_decode_of_fits {t : Table} (ht : t.Distinct) {tree : Tree}
    (htree : t.toTree? = some tree) (hfits : Fits tree) : ∃ c, decode t = .ok c := by
  obtain ⟨fs, rfl, hdetection, htracing⟩ := hfits
  have hplain : t.content.IsPlain (.record fs) := ⟨t.toNode, rfl, htree⟩
  have hgroups : t.GroupsAreTables := by
    intro group hgroup g hg
    obtain ⟨x, hx, hmem⟩ := hplain.record.2 _ g hg
    rcases List.mem_pair.mp hgroup with rfl | rfl
    · obtain ⟨_, rfl, -⟩ := hdetection x hmem
      exact hx.record.1
    · obtain ⟨_, rfl, -⟩ := htracing x hmem
      exact hx.record.1
  obtain ⟨vs, hvs⟩ : ∃ vs, Given Content.AreVariants [] (t.setting? .disabledVariants) vs := by
    refine exists_given [] hplain fun x hx => ?_
    obtain ⟨gs, rfl, hvariants⟩ := hdetection x hx
    refine ⟨gs, rfl, fun y hy c hc => ?_⟩
    obtain ⟨ts, rfl, hnames⟩ := hvariants y hy
    exact exists_areVariants hc hnames
  obtain ⟨filter, hfilter⟩ : ∃ s, Given Content.IsText none (t.setting? .filter) s := by
    refine exists_given none hplain fun x hx => ?_
    obtain ⟨gs, rfl, hfilter, -⟩ := htracing x hx
    refine ⟨gs, rfl, fun y hy c hc => ?_⟩
    rcases hfilter y hy with rfl | ⟨s, rfl⟩
    · exact absurd hc Content.not_isPlain_null
    · exact ⟨some s, hc.text ▸ .text s⟩
  obtain ⟨withTarget, hwithTarget⟩ :
      ∃ b, Given Content.IsBoolean none (t.setting? .withTarget) b := by
    refine exists_given none hplain fun x hx => ?_
    obtain ⟨gs, rfl, -, hwithTarget⟩ := htracing x hx
    refine ⟨gs, rfl, fun y hy c hc => ?_⟩
    rcases hwithTarget y hy with rfl | ⟨b, rfl⟩
    · exact absurd hc Content.not_isPlain_null
    · exact ⟨some b, hc.boolean ▸ .boolean b⟩
  exact ⟨⟨⟨vs⟩, ⟨filter, withTarget⟩⟩,
    (decode_eq_ok_iff ht hgroups).mpr ⟨hvs, hfilter, hwithTarget⟩⟩

namespace Config

/-- A configuration as plain data; a setting without a value is left out. -/
def toTree (c : Config) : Tree :=
  .record
    [("detection", .record [("disabled_variants", variantTrees c.detection.disabledVariants)]),
      ("tracing", .record
        ((c.tracing.filter.toList.map fun s => ("filter", .text s)) ++
          c.tracing.withTarget.toList.map fun b => ("with_target", .boolean b)))]

/-- The text of a configuration is a document, and its data is what the configuration
says. -/
theorem toTree?_encode (c : Config) :
    ∃ t, read c.encode = some t ∧ t.toTree? = some c.toTree := by
  obtain ⟨l, detection, tracing, span, span', hstatements⟩ := readStatements_encode c
  have hread := Document.Group.read_plain hstatements (by
    change ["detection", "tracing"].Nodup
    decide)
  have hdetection := l.sets_variants.fieldsOf?
  have htracing := Document.fieldsOf?_append l.sets_filter.fieldsOf? l.sets_withTarget.fieldsOf?
  have hgroups : Document.fieldsOf?
      [(l.detection detection span).entry, (l.tracing tracing span').entry] = some
        [("detection", .record [("disabled_variants", variantTrees c.detection.disabledVariants)]),
          ("tracing", .record
            ((c.tracing.filter.toList.map fun s => ("filter", .text s)) ++
              c.tracing.withTarget.toList.map fun b => ("with_target", .boolean b)))] := by
    simp only [Document.Group.entry, Lines.detection, Lines.tracing, Document.fieldsOf?,
      Node.toTree?, hdetection, htracing]
    rfl
  exact ⟨_, hread, congrArg (Option.map Tree.record) hgroups⟩

/-- What a configuration says fits the schema: its names are names of variants. -/
theorem fits_toTree (c : Config) : Fits c.toTree := by
  refine ⟨_, rfl, fun x hx => ?_, fun x hx => ?_⟩
  · obtain rfl : x =
        .record [("disabled_variants", variantTrees c.detection.disabledVariants)] := by
      simpa using hx
    refine ⟨_, rfl, fun y hy => ?_⟩
    obtain rfl : y = variantTrees c.detection.disabledVariants := by simpa using hy
    refine ⟨_, rfl, fun z hz => ?_⟩
    obtain ⟨v, -, rfl⟩ := List.mem_map.mp hz
    exact ⟨v, rfl⟩
  · obtain rfl : x = .record
        ((c.tracing.filter.toList.map fun s => ("filter", .text s)) ++
          c.tracing.withTarget.toList.map fun b => ("with_target", .boolean b)) := by
      simpa using hx
    refine ⟨_, rfl, fun y hy => .inr ?_, fun y hy => .inr ?_⟩
    · obtain ⟨s, -, rfl⟩ : ∃ s, c.tracing.filter = some s ∧ .text s = y := by simpa using hy
      exact ⟨s, rfl⟩
    · obtain ⟨b, -, rfl⟩ : ∃ b, c.tracing.withTarget = some b ∧ .boolean b = y := by
        simpa using hy
      exact ⟨b, rfl⟩

/-- A well-formed document without dates and times that meets the published schema
is accepted, and the document of every configuration meets it. -/
theorem schema_sound :
    (∀ text t, read text = some t → t.toNode.Timeless →
        ∃ tree, t.toTree? = some tree ∧
          (schemaDocument.toTree.Meets tree → ∃ c, ofText text = .ok c)) ∧
      ∀ c : Config, ∃ t tree, read c.encode = some t ∧ t.toTree? = some tree ∧
        schemaDocument.toTree.Meets tree := by
  constructor
  · intro text t hread htimeless
    obtain ⟨tree, htree⟩ := htimeless.exists_toTree?
    refine ⟨tree, htree, fun hmeets => ?_⟩
    obtain ⟨c, hc⟩ :=
      exists_decode_of_fits (Document.distinct_read hread) htree (meets_schema_iff.mp hmeets)
    refine ⟨c, ?_⟩
    rw [ofText, hread]
    exact congrArg (Except.mapError _) hc
  · intro c
    obtain ⟨t, hread, htree⟩ := c.toTree?_encode
    exact ⟨t, c.toTree, hread, htree, meets_schema_iff.mpr c.fits_toTree⟩

end Config

end MvvmSymbols
