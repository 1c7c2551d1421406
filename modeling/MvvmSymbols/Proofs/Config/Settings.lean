import MvvmSymbols.Config.Load
import MvvmSymbols.Proofs.Config.Decoding

/-!
What a text has to say for the configuration it stands for. Its three settings
decide whether there is one, and which; all else that a document may hold, in its
own table, in the tables of both groups or further down, has no part in it.
-/

namespace MvvmSymbols

open Document (Content Key Node Table keyNames read valueOf?)

inductive Setting where
  | disabledVariants
  | filter
  | withTarget
deriving DecidableEq

namespace Setting

def all : List Setting := [.disabledVariants, .filter, .withTarget]

def group : Setting → String
  | .disabledVariants => "detection"
  | .filter | .withTarget => "tracing"

def name : Setting → String
  | .disabledVariants => "disabled_variants"
  | .filter => "filter"
  | .withTarget => "with_target"

def groups : List String := ["detection", "tracing"]

def namesIn (group : String) : List String := (all.filter (·.group = group)).map name

theorem mem_all (s : Setting) : s ∈ all := by
  cases s <;> simp [all]

theorem group_mem (s : Setting) : s.group ∈ groups := by
  cases s <;> decide

theorem name_mem (s : Setting) : s.name ∈ namesIn s.group := by
  cases s <;> decide

end Setting

namespace Document

/-- What a document says about a setting. -/
def Table.setting? (t : Table) (s : Setting) : Option Content :=
  t.content.at? [s.group, s.name]

/-- Where the document speaks of a group of settings, it is a table. -/
def Table.GroupsAreTables (t : Table) : Prop :=
  ∀ group ∈ Setting.groups, ∀ c, t.content.at? [group] = some c → c.IsTable

instance (t : Table) : Decidable t.GroupsAreTables :=
  decidable_of_iff (∀ group ∈ Setting.groups, ∀ c ∈ t.content.at? [group], c.IsTable) Iff.rfl

/-- The node without the entries that have other names. -/
def Node.only (names : List String) : Node → Node
  | .table form span entries => .table form span (entries.filter (·.1.name ∈ names))
  | n => n

/-- The document without everything that is no setting. -/
def Table.settingsOnly (t : Table) : Table :=
  { t with
    entries := (t.entries.filter (·.1.name ∈ Setting.groups)).map fun e =>
      (e.1, e.2.only (Setting.namesIn e.1.name)) }

theorem valueOf?_filter {names : List String} {name : String} (hname : name ∈ names)
    (es : List (Key × Node)) :
    valueOf? (es.filter (·.1.name ∈ names)) name = valueOf? es name := by
  rw [valueOf?, valueOf?, List.find?_filter]
  congr 2
  funext e
  by_cases he : e.1.name = name <;> simp [he, hname]

theorem valueOf?_map (f : String → Node → Node) (es : List (Key × Node)) (name : String) :
    valueOf? (es.map fun e => (e.1, f e.1.name e.2)) name = (valueOf? es name).map (f name) := by
  induction es with
  | nil => rfl
  | cons e es ih =>
      rw [List.map_cons, valueOf?_cons, valueOf?_cons, ih]
      by_cases hname : e.1.name = name
      · rw [if_pos hname, if_pos hname, hname]
        rfl
      · rw [if_neg hname, if_neg hname]

theorem Node.at?_content_only {names : List String} {name : String} (hname : name ∈ names)
    (n : Node) : (n.only names).content.at? [name] = n.content.at? [name] := by
  cases n with
  | table form span es =>
      rw [Node.only, Node.at?_content_cons, Node.at?_content_cons, valueOf?_filter hname]
  | scalar | list | series => rfl

theorem Node.isTable_only {names : List String} {n : Node} (h : n.content.IsTable) :
    (n.only names).content.IsTable := by
  cases n with
  | table => trivial
  | scalar | list | series => exact h

theorem Table.at?_settingsOnly (t : Table) {group : String} (hgroup : group ∈ Setting.groups)
    (path : List String) :
    t.settingsOnly.content.at? (group :: path) =
      (valueOf? t.entries group).bind fun n =>
        (n.only (Setting.namesIn group)).content.at? path := by
  have hvalue : valueOf? t.settingsOnly.entries group =
      (valueOf? t.entries group).map (Node.only (Setting.namesIn group)) := by
    rw [settingsOnly, valueOf?_map fun name => Node.only (Setting.namesIn name),
      valueOf?_filter hgroup]
  rw [at?_content_cons, hvalue, Option.bind_map]
  rfl

/-- The settings are what they were after all else is deleted. -/
theorem Table.setting?_settingsOnly (t : Table) (s : Setting) :
    t.settingsOnly.setting? s = t.setting? s := by
  rw [setting?, t.at?_settingsOnly s.group_mem, setting?, at?_content_cons]
  refine Option.bind_congr fun n _ => ?_
  exact n.at?_content_only s.name_mem

theorem Table.groupsAreTables_settingsOnly {t : Table} (ht : t.GroupsAreTables) :
    t.settingsOnly.GroupsAreTables := by
  intro group hgroup c hc
  rw [t.at?_settingsOnly hgroup] at hc
  obtain ⟨n, hn, hc⟩ := Option.bind_eq_some_iff.mp hc
  cases hc
  refine Node.isTable_only (ht group hgroup n.content ?_)
  rw [at?_content_cons, hn]
  rfl

end Document

theorem toOption_eq_some_iff {ε α : Type} {x : Except ε α} {a : α} :
    x.toOption = some a ↔ x = .ok a := by
  cases x <;> simp [Except.toOption]

/-- A complaint about a value is made under the same key after the deletion. -/
theorem decodeValue_only {α : Type} {decode : Node → Decoded α} {names : List String} {n : Node}
    (hdecode : decode (n.only names) = decode n) (key : Key) :
    decodeValue decode key (n.only names) = decodeValue decode key n := by
  have hspan : (n.only names).span? = n.span? := by
    cases n <;> rfl
  rw [decodeValue, decodeValue, hdecode, hspan]

/-- The decoder of detection does not see what is deleted. -/
theorem DetectionConfig.decode_only (n : Node) :
    decode (n.only (Setting.namesIn "detection")) = decode n := by
  cases n with
  | table form span es => exact fields_describes.filter es {}
  | scalar | list | series => rfl

theorem TracingConfig.decode_only (n : Node) :
    decode (n.only (Setting.namesIn "tracing")) = decode n := by
  cases n with
  | table form span es => exact fields_describes.filter es {}
  | scalar | list | series => rfl

namespace Config

/-- What is not a setting makes no difference to the decoder, not even to what it
complains about, and where. -/
theorem decode_settingsOnly (t : Table) : decode t.settingsOnly = decode t := by
  have hstep (c : Config) (e : Key × Node) :
      fields.step c (e.1, e.2.only (Setting.namesIn e.1.name)) = fields.step c e := by
    by_cases hdetection : e.1.name = "detection"
    · rw [Fields.step_of_mem List.mem_cons_self hdetection,
        Fields.step_of_mem List.mem_cons_self hdetection, hdetection]
      exact congrArg _ (decodeValue_only (DetectionConfig.decode_only e.2) e.1)
    by_cases htracing : e.1.name = "tracing"
    · rw [Fields.step_of_mem (List.mem_cons_of_mem _ List.mem_cons_self) htracing,
        Fields.step_of_mem (List.mem_cons_of_mem _ List.mem_cons_self) htracing, htracing]
      exact congrArg _ (decodeValue_only (TracingConfig.decode_only e.2) e.1)
    have hnew : e.1.name ∉ fields.names := by
      simpa [Fields.names, fields] using ⟨hdetection, htracing⟩
    exact (Fields.step_of_unknown (by exact hnew)).trans (Fields.step_of_unknown hnew).symm
  calc
    decode t.settingsOnly
      = (t.entries.filter (·.1.name ∈ Setting.groups)).foldlM fields.step {} := by
        rw [decode, fields_describes.eq_foldlM, Table.settingsOnly, List.foldlM_map]
        simp only [hstep]
    _ = decode t := by
        rw [← fields_describes.eq_foldlM]
        exact fields_describes.filter t.entries {}

/-- A configuration is decoded from what the document says about each setting. -/
theorem decode_eq_ok_iff {t : Table} (ht : t.Distinct) (hgroups : t.GroupsAreTables) {c : Config} :
    decode t = .ok c ↔
      Given Content.AreVariants [] (t.setting? .disabledVariants) c.detection.disabledVariants ∧
        Given Content.IsText none (t.setting? .filter) c.tracing.filter ∧
        Given Content.IsBoolean none (t.setting? .withTarget) c.tracing.withTarget := by
  rw [decode_eq_ok_iff_groups ht]
  have htable {group : String} (hgroup : group ∈ Setting.groups) {n : Node}
      (hn : valueOf? t.entries group = some n) : n.content.IsTable := by
    refine hgroups group hgroup n.content ?_
    rw [Table.at?_content_cons, hn]
    rfl
  have hsaid (s : Setting) :
      t.setting? s = (valueOf? t.entries s.group).bind (·.content.at? [s.name]) :=
    t.at?_content_cons s.group [s.name]
  rw [hsaid, hsaid, hsaid, Setting.group, Setting.group, Setting.group]
  refine and_congr ?_ ?_
  · cases hn : valueOf? t.entries "detection" with
    | none =>
        rw [Option.bind_none, Given.none_iff, Given.none_iff]
        exact DetectionConfig.ext_iff
    | some n =>
        rw [Option.bind_some, Given.some_iff]
        exact DetectionConfig.decode_eq_ok_iff (ht.find? hn) (htable (by decide) hn)
  · cases hn : valueOf? t.entries "tracing" with
    | none =>
        rw [Option.bind_none, Option.bind_none, Given.none_iff, Given.none_iff, Given.none_iff]
        exact TracingConfig.ext_iff
    | some n =>
        rw [Option.bind_some, Option.bind_some, Given.some_iff]
        exact TracingConfig.decode_eq_ok_iff (ht.find? hn) (htable (by decide) hn)

/-- Two documents that say the same about the settings are decoded alike, if at all. -/
theorem toOption_decode_congr {t t' : Table} (ht : t.Distinct) (ht' : t'.Distinct)
    (hgroups : t.GroupsAreTables) (hgroups' : t'.GroupsAreTables)
    (hsame : ∀ s, t'.setting? s = t.setting? s) :
    (decode t').toOption = (decode t).toOption := by
  ext c
  rw [toOption_eq_some_iff, toOption_eq_some_iff, decode_eq_ok_iff ht' hgroups',
    decode_eq_ok_iff ht hgroups, hsame, hsame, hsame]

/-- A document that sets nothing stands for the default configuration. -/
theorem decode_of_nothing_set {t : Table} (ht : t.Distinct) (hgroups : t.GroupsAreTables)
    (hnone : ∀ s, t.setting? s = none) : decode t = .ok {} := by
  rw [decode_eq_ok_iff ht hgroups, hnone, hnone, hnone]
  exact ⟨.unset, .unset, .unset⟩

theorem toOption_ofText {text : String} {t : Table} (hread : read text = some t) :
    (ofText text).toOption = (decode t).toOption := by
  simp only [ofText, hread]
  cases decode t <;> rfl

/-- Whether a text says this about the filter, and nothing about the other settings,
can be computed from it. -/
theorem exists_read_setting (text : String) (filter : Option Document.Scalar)
    (h : (read text).any fun t => t.GroupsAreTables ∧ ∀ s ∈ Setting.all,
      t.setting? s = (if s = .filter then filter else none).map .scalar) :
    ∃ t, read text = some t ∧ t.GroupsAreTables ∧
      ∀ s, t.setting? s = (if s = .filter then filter else none).map .scalar := by
  obtain ⟨t, hread, h⟩ := (Option.any_eq_true _ _).mp h
  obtain ⟨hgroups, hsaid⟩ := of_decide_eq_true h
  exact ⟨t, hread, hgroups, fun s => hsaid s s.mem_all⟩

/-- Two well-formed texts that say the same about the three settings stand for the
same configuration, or for none both of them. So it makes no difference to a text if
all else is deleted from it, nor to the decoder, down to its complaint. A text that
says nothing about the settings stands for the default configuration. -/
theorem ofText_determined_by_settings {text : String} {t : Table} (hread : read text = some t)
    (hgroups : t.GroupsAreTables) :
    (∀ text' t', read text' = some t' → t'.GroupsAreTables →
        (∀ s, t'.setting? s = t.setting? s) →
          (ofText text').toOption = (ofText text).toOption) ∧
      (∀ text' t', read text' = some t' → t'.content = t.settingsOnly.content →
        (ofText text').toOption = (ofText text).toOption) ∧
      decode t.settingsOnly = decode t ∧
      ((∀ s, t.setting? s = none) → ofText text = .ok {}) := by
  have ht := Document.distinct_read hread
  have hagree (text' : String) (t' : Table) (hread' : read text' = some t')
      (hgroups' : t'.GroupsAreTables) (hsame : ∀ s, t'.setting? s = t.setting? s) :
      (ofText text').toOption = (ofText text).toOption := by
    rw [toOption_ofText hread', toOption_ofText hread]
    exact toOption_decode_congr ht (Document.distinct_read hread') hgroups hgroups' hsame
  refine ⟨hagree, ?_, decode_settingsOnly t, ?_⟩
  · intro text' t' hread' hcontent
    refine hagree text' t' hread' ?_ fun s => ?_
    · rw [Table.GroupsAreTables, hcontent]
      exact Table.groupsAreTables_settingsOnly hgroups
    · rw [Table.setting?, hcontent]
      exact t.setting?_settingsOnly s
  · intro hnone
    rw [ofText, hread]
    exact congrArg (Except.mapError _) (decode_of_nothing_set ht hgroups hnone)

/-- A filter is set in two documents, among other names, dates, lists and tables that
differ from one to the other, and not set in a third. -/
theorem unknown_keys_make_no_difference :
    (∃ t t', read "[tracing]\nfilter = 'debug'\nlevel = 1\n[[new]]\na = [[], true]" = some t ∧
      read "tracing.filter = \"debug\"\n[detection]\ndisabled.x = 1979-05-27" = some t' ∧
      t.GroupsAreTables ∧ t'.GroupsAreTables ∧
      t.setting? .filter = some (.scalar (.text "debug")) ∧
      (∀ s, t'.setting? s = t.setting? s) ∧
      decode t.settingsOnly = decode t ∧
      (ofText "tracing.filter = \"debug\"\n[detection]\ndisabled.x = 1979-05-27").toOption =
        (ofText "[tracing]\nfilter = 'debug'\nlevel = 1\n[[new]]\na = [[], true]").toOption) ∧
    ∃ t, read "new = [{}]\n[detection]\ndisabled.x = 1979-05-27" = some t ∧ t.GroupsAreTables ∧
      (∀ s, t.setting? s = none) ∧
      ofText "new = [{}]\n[detection]\ndisabled.x = 1979-05-27" = .ok {} := by
  constructor
  · obtain ⟨t, hread, hgroups, hsaid⟩ := exists_read_setting
      "[tracing]\nfilter = 'debug'\nlevel = 1\n[[new]]\na = [[], true]" (some (.text "debug"))
      (by decide +kernel)
    obtain ⟨t', hread', hgroups', hsaid'⟩ := exists_read_setting
      "tracing.filter = \"debug\"\n[detection]\ndisabled.x = 1979-05-27" (some (.text "debug"))
      (by decide +kernel)
    have hsame (s : Setting) : t'.setting? s = t.setting? s := (hsaid' s).trans (hsaid s).symm
    obtain ⟨hagree, -, honly, -⟩ := ofText_determined_by_settings hread hgroups
    exact ⟨t, t', hread, hread', hgroups, hgroups', hsaid .filter, hsame, honly,
      hagree _ t' hread' hgroups' hsame⟩
  · obtain ⟨t, hread, hgroups, hsaid⟩ :=
      exists_read_setting "new = [{}]\n[detection]\ndisabled.x = 1979-05-27" none
        (by decide +kernel)
    have hnothing (s : Setting) : t.setting? s = none := by
      rw [hsaid, ite_self]
      rfl
    exact ⟨t, hread, hgroups, hnothing,
      (ofText_determined_by_settings hread hgroups).2.2.2 hnothing⟩

end Config

end MvvmSymbols
