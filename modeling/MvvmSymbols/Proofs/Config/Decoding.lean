import Mathlib.Data.List.Forall2
import MvvmSymbols.Proofs.Config.Fields

/-!
What configurations are decoded from. Whether a group of settings can be decoded,
and to what, is a matter of what is said under the names of its settings; other
names, and the order of all names, have no part in it.
-/

namespace MvvmSymbols

open Document (Content Key Node valueOf?)

namespace Document.Content

/-- A variant is said by its name, or by a table with nothing under its name. -/
inductive IsVariant : Content → Variant → Prop
  | name (v : Variant) : IsVariant (.scalar (.text v.name)) v
  | table (v : Variant) {c : Content} (hempty : c.IsEmpty) : IsVariant (.single v.name c) v

inductive AreVariants : Content → List Variant → Prop
  | list {cs : List Content} {vs : List Variant} (hitems : List.Forall₂ IsVariant cs vs) :
      AreVariants (.list cs) vs

inductive IsText : Content → Option String → Prop
  | text (s : String) : IsText (.scalar (.text s)) (some s)

inductive IsBoolean : Content → Option Bool → Prop
  | boolean (b : Bool) : IsBoolean (.scalar (.boolean b)) (some b)

end Document.Content

namespace Variant

theorem decodeName_eq_ok_iff {name : String} {span : Option Document.Span} {v : Variant} :
    decodeName name span = .ok v ↔ name = v.name := by
  constructor
  · intro h
    rw [decodeName] at h
    split at h
    · rename_i w hname
      cases h
      exact (name_of_ofName? hname).symm
    · cases h
  · rintro rfl
    rw [decodeName, ofName?_name]

/-- Behind a name that is written as a key, an empty list or table counts as nothing. -/
theorem decodeNothing_eq_ok_iff {n : Node} : decodeNothing n = .ok () ↔ n.content.IsEmpty := by
  constructor
  · intro h
    rw [decodeNothing.eq_def] at h
    split at h
    · exact .list
    · exact .list
    · exact .table
    all_goals cases h
  · intro h
    match n, h with
    | .list _ [], _ | .series _ [], _ => rfl
    | .table _ _ entries, h =>
        rw [Node.content] at h
        generalize hsaid : Document.contentOf? entries = said at h
        cases h
        rw [Document.eq_nil_of_contentOf? hsaid]
        rfl

theorem decodeForm_single {form : Document.TableForm} {span : Option Document.Span} {key : Key}
    {value : Node} {v : Variant} :
    decodeForm (.table form span [(key, value)]) = .ok v ↔
      key.name = v.name ∧ value.content.IsEmpty := by
  rw [decodeForm, bind_eq_ok_iff, ← decodeNothing_eq_ok_iff]
  constructor
  · rintro ⟨w, hname, h⟩
    obtain ⟨⟨⟩, hempty, hw⟩ := bind_eq_ok_iff.mp h
    cases hw
    exact ⟨decodeName_eq_ok_iff.mp hname, hempty⟩
  · rintro ⟨hname, hempty⟩
    exact ⟨v, decodeName_eq_ok_iff.mpr hname, bind_eq_ok_iff.mpr ⟨(), hempty, rfl⟩⟩

/-- The two ways to write a variant: its name as a text, or as the only key of a
table. -/
theorem decode_eq_ok_iff {n : Node} (hn : n.Distinct) {v : Variant} :
    decode n = .ok v ↔ n.content.IsVariant v := by
  rw [decode, mapError_eq_ok_iff]
  constructor
  · intro h
    match n with
    | .scalar _ (.text name) =>
        rw [decodeName_eq_ok_iff.mp h]
        exact .name v
    | .table form span [(key, value)] =>
        obtain ⟨hname, hempty⟩ := decodeForm_single.mp h
        have hsaid : (Node.table form span [(key, value)]).content =
          .single key.name value.content := rfl
        rw [hsaid, hname]
        exact .table v hempty
  · intro h
    match n with
    | .scalar _ value =>
        rw [Node.content] at h
        cases h
        exact decodeName_eq_ok_iff.mpr rfl
    | .table _ _ entries =>
        obtain ⟨hnames, -⟩ := Document.Table.Distinct.ofNode hn .closed Option.none
        rw [Node.content] at h
        generalize hsaid : Document.contentOf? entries = said at h
        cases h with
        | table _ hempty =>
            obtain ⟨key, value, rfl, hname, rfl⟩ :=
              Document.eq_singleton_of_contentOf? hnames hsaid
            exact decodeForm_single.mpr ⟨hname, hempty⟩

end Variant

/-- A list is decoded iff each of its items is, in their order. -/
theorem mapM_decode_eq_ok_iff {items : List Node} (hitems : ∀ n ∈ items, n.Distinct)
    {vs : List Variant} :
    items.mapM Variant.decode = .ok vs ↔
      List.Forall₂ Content.IsVariant (Document.contents items) vs := by
  induction items generalizing vs with
  | nil => cases vs <;> simp [Document.contents, pure, Except.pure]
  | cons n items ih =>
      obtain ⟨hn, hrest⟩ := List.forall_mem_cons.mp hitems
      rw [List.mapM_cons, Document.contents, List.forall₂_cons_left_iff, bind_eq_ok_iff]
      refine exists_congr fun v => ?_
      rw [Variant.decode_eq_ok_iff hn, bind_eq_ok_iff]
      simp only [ih hrest, pure, Except.pure, Except.ok.injEq, eq_comm (b := vs),
        exists_and_left]

theorem decodeVariants_eq_ok_iff {n : Node} (hn : n.Distinct) {vs : List Variant} :
    decodeVariants n = .ok vs ↔ n.content.AreVariants vs := by
  have hlist {items : List Node} (hitems : ∀ m ∈ items, m.Distinct) :
      items.mapM Variant.decode = .ok vs ↔
        (Content.list (Document.contents items)).AreVariants vs := by
    rw [mapM_decode_eq_ok_iff hitems]
    constructor
    · exact .list
    · rintro ⟨h⟩
      exact h
  match n with
  | .list _ _ => exact hlist (hn.items (.inl rfl))
  | .series _ _ => exact hlist (hn.items (.inr rfl))
  | .scalar _ _ | .table _ _ _ =>
      rw [Node.content]
      constructor <;> intro h <;> cases h

/-- Only a text is read as a text; a number or a date that would print alike is not. -/
theorem decodeText_eq_ok_iff {n : Node} {s : Option String} :
    (decodeText n).map some = .ok s ↔ n.content.IsText s := by
  constructor
  · intro h
    obtain ⟨a, ha, rfl⟩ := map_eq_ok_iff.mp h
    rw [decodeText.eq_def] at ha
    split at ha
    · cases ha
      exact .text a
    · cases ha
  · intro h
    match n with
    | .scalar _ value =>
        rw [Node.content] at h
        cases h
        rfl

/-- Only true and false are read as such, and neither the numbers nor their names. -/
theorem decodeBoolean_eq_ok_iff {n : Node} {b : Option Bool} :
    (decodeBoolean n).map some = .ok b ↔ n.content.IsBoolean b := by
  constructor
  · intro h
    obtain ⟨a, ha, rfl⟩ := map_eq_ok_iff.mp h
    rw [decodeBoolean.eq_def] at ha
    split at ha
    · cases ha
      exact .boolean a
    · cases ha
  · intro h
    match n with
    | .scalar _ value =>
        rw [Node.content] at h
        cases h
        rfl

attribute [ext] DetectionConfig TracingConfig Config

theorem map_decodeValue_map {α β γ : Type} (decode : Node → Decoded α) (f : α → β) (g : β → γ)
    (key : Key) (n : Node) :
    (decodeValue (fun n => (decode n).map f) key n).map g =
      (decodeValue decode key n).map fun a => g (f a) := by
  rw [decodeValue, decodeValue]
  cases decode n <;> rfl

namespace DetectionConfig

def fields : Fields DetectionConfig where
  fields := [
    { name := "disabled_variants"
      decode := decodeVariants
      get := disabledVariants
      put c vs := { c with disabledVariants := vs }
      get_put _ _ := rfl }]
  apart := List.pairwise_singleton _ _
  ext _ _ h := DetectionConfig.ext (h _ List.mem_cons_self)

theorem fields_describes : fields.Describes decodeEntries where
  nil _ := rfl
  cons e es c := by
    rw [decodeEntries]
    by_cases hname : e.1.name = "disabled_variants"
    · rw [if_pos hname, Fields.step_of_mem List.mem_cons_self hname]
    · rw [if_neg hname, Fields.step_of_unknown (by simpa [Fields.names, fields] using hname)]

/-- What is decoded of detection is the list of variants that are disabled, or none
where nothing is said. -/
theorem decode_eq_ok_iff {n : Node} (hn : n.Distinct) (htable : n.content.IsTable)
    {c : DetectionConfig} :
    decode n = .ok c ↔
      Given Content.AreVariants [] (n.content.at? ["disabled_variants"]) c.disabledVariants := by
  match n with
  | .table form span es =>
      rw [decode, fields_describes.eq_ok_iff (Document.Table.Distinct.ofNode hn form span).names]
      refine List.forall_mem_singleton.trans ?_
      exact Field.decodes_iff (fun _ _ hn => decodeVariants_eq_ok_iff hn) hn

end DetectionConfig

namespace TracingConfig

def fields : Fields TracingConfig where
  fields := [
    { name := "filter"
      decode n := (decodeText n).map some
      get := filter
      put c s := { c with filter := s }
      get_put _ _ := rfl },
    { name := "with_target"
      decode n := (decodeBoolean n).map some
      get := withTarget
      put c b := { c with withTarget := b }
      get_put _ _ := rfl }]
  apart := List.pairwise_pair.mpr ⟨by decide, fun _ _ => rfl, fun _ _ => rfl⟩
  ext _ _ h :=
    TracingConfig.ext (h _ List.mem_cons_self) (h _ (List.mem_cons_of_mem _ List.mem_cons_self))

theorem fields_describes : fields.Describes decodeEntries where
  nil _ := rfl
  cons e es c := by
    rw [decodeEntries]
    by_cases hfilter : e.1.name = "filter"
    · rw [if_pos hfilter, Fields.step_of_mem List.mem_cons_self hfilter, map_decodeValue_map]
    rw [if_neg hfilter]
    by_cases hwithTarget : e.1.name = "with_target"
    · rw [if_pos hwithTarget,
        Fields.step_of_mem (List.mem_cons_of_mem _ List.mem_cons_self) hwithTarget,
        map_decodeValue_map]
    · rw [if_neg hwithTarget,
        Fields.step_of_unknown (by simpa [Fields.names, fields] using ⟨hfilter, hwithTarget⟩)]

/-- What is decoded of logging is what is said about its two settings, each on its
own. -/
theorem decode_eq_ok_iff {n : Node} (hn : n.Distinct) (htable : n.content.IsTable)
    {c : TracingConfig} :
    decode n = .ok c ↔
      Given Content.IsText none (n.content.at? ["filter"]) c.filter ∧
        Given Content.IsBoolean none (n.content.at? ["with_target"]) c.withTarget := by
  match n with
  | .table form span es =>
      rw [decode, fields_describes.eq_ok_iff (Document.Table.Distinct.ofNode hn form span).names]
      refine List.forall_mem_cons.trans (and_congr ?_ (List.forall_mem_singleton.trans ?_))
      · exact Field.decodes_iff (fun _ _ _ => decodeText_eq_ok_iff) hn
      · exact Field.decodes_iff (fun _ _ _ => decodeBoolean_eq_ok_iff) hn

end TracingConfig

namespace Config

def fields : Fields Config where
  fields := [
    { name := "detection"
      decode := DetectionConfig.decode
      get := detection
      put c d := { c with detection := d }
      get_put _ _ := rfl },
    { name := "tracing"
      decode := TracingConfig.decode
      get := tracing
      put c t := { c with tracing := t }
      get_put _ _ := rfl }]
  apart := List.pairwise_pair.mpr ⟨by decide, fun _ _ => rfl, fun _ _ => rfl⟩
  ext _ _ h :=
    Config.ext (h _ List.mem_cons_self) (h _ (List.mem_cons_of_mem _ List.mem_cons_self))

theorem fields_describes : fields.Describes decodeEntries where
  nil _ := rfl
  cons e es c := by
    rw [decodeEntries]
    by_cases hdetection : e.1.name = "detection"
    · rw [if_pos hdetection, Fields.step_of_mem List.mem_cons_self hdetection]
    rw [if_neg hdetection]
    by_cases htracing : e.1.name = "tracing"
    · rw [if_pos htracing,
        Fields.step_of_mem (List.mem_cons_of_mem _ List.mem_cons_self) htracing]
    · rw [if_neg htracing,
        Fields.step_of_unknown (by simpa [Fields.names, fields] using ⟨hdetection, htracing⟩)]

/-- A document is decoded group by group, with the defaults for a group that is not
there. -/
theorem decode_eq_ok_iff_groups {t : Document.Table} (ht : t.Distinct) {c : Config} :
    decode t = .ok c ↔
      Given (DetectionConfig.decode · = .ok ·) {} (valueOf? t.entries "detection") c.detection ∧
        Given (TracingConfig.decode · = .ok ·) {} (valueOf? t.entries "tracing") c.tracing := by
  rw [decode, fields_describes.eq_ok_iff ht.names]
  exact List.forall_mem_cons.trans (and_congr Iff.rfl List.forall_mem_singleton)

end Config

end MvvmSymbols
