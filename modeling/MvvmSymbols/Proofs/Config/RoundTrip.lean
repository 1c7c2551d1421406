import MvvmSymbols.Config.Load
import MvvmSymbols.Proofs.Document.Layout
import MvvmSymbols.Proofs.Document.Plain

/-!
Configurations survive being written and read: every document that a
configuration is written as stands for that configuration, whatever variants it
disables and whatever characters its filter holds.
-/

namespace MvvmSymbols

open Document

/-- What a value is written as: it decodes to the value, and it is this plain data. -/
structure Shows {α : Type} (decode : Node → Decoded α) (tree : α → Tree) (value : α) (n : Node) :
    Prop where
  decodes : decode n = .ok value
  plain : n.toTree? = some (tree value)

/-- A value as it is written at the end of a line: what is read there shows it. -/
structure Writes {α : Type} (decode : Node → Decoded α) (tree : α → Tree) (value : α)
    (written : List Char) : Prop where
  starts (rest : List Char) : skipBlanks (written ++ '\n' :: rest) = written ++ '\n' :: rest
  reads (rest : List Char) :
    ∃ n, readValue (depthLimit - 1) (written ++ '\n' :: rest) = some (n, '\n' :: rest) ∧
      Shows decode tree value n

theorem writes_text (s : String) : Writes decodeText .text s (writeText s) where
  starts rest := skipBlanks_writeText s _
  reads rest := by
    obtain ⟨n, hread, span, rfl⟩ := readValue_writeText s (depthLimit - 1)
      (show Unquoted '"' ('\n' :: rest) by simp [Unquoted]) (by simp [Unquoted])
    exact ⟨_, hread, rfl, rfl⟩

theorem writes_boolean (b : Bool) :
    Writes decodeBoolean .boolean b (writeBoolean b) where
  starts rest := by
    cases b <;> simp [writeBoolean, skipBlanks, isBlank]
  reads rest := by
    cases b with
    | true => exact ⟨_, rfl, rfl, rfl⟩
    | false => exact ⟨_, rfl, rfl, rfl⟩

/-- A variant is written as its name, which is one of the two ways to read it. -/
theorem Variant.decode_text (v : Variant) {n : Node} (htext : IsText v.name n) :
    Variant.decode n = .ok v := by
  obtain ⟨span, rfl⟩ := htext
  simp [Variant.decode, Variant.decodeForm, Variant.decodeName, Variant.ofName?_name,
    Except.mapError]

theorem mapM_decode_texts {vs : List Variant} {items : List Node}
    (htexts : List.Forall₂ IsText (vs.map Variant.name) items) :
    items.mapM Variant.decode = .ok vs := by
  induction vs generalizing items with
  | nil =>
      cases htexts
      rfl
  | cons v vs ih =>
      obtain - | ⟨htext, htexts⟩ := htexts
      rw [List.mapM_cons, v.decode_text htext, ih htexts]
      rfl

theorem treesOf?_texts {vs : List Variant} {items : List Node}
    (htexts : List.Forall₂ IsText (vs.map Variant.name) items) :
    treesOf? items = some (vs.map fun v => .text v.name) := by
  induction vs generalizing items with
  | nil =>
      cases htexts
      rfl
  | cons v vs ih =>
      obtain - | ⟨⟨span, rfl⟩, htexts⟩ := htexts
      rw [treesOf?, ih htexts]
      rfl

def variantTrees (vs : List Variant) : Tree := .list (vs.map fun v => .text v.name)

/-- The list of variants is read back in order, whether it takes one line or several. -/
theorem readItems_writeVariants (depth : Nat) (vs : List Variant) (rest : List Char) :
    ∃ text items, writeVariants vs ++ rest = '[' :: text ∧
      readItems (readValue depth) text = some (items, rest) ∧
      List.Forall₂ IsText (vs.map Variant.name) items := by
  match vs with
  | [] =>
      refine ⟨']' :: rest, [], ?_, readItems_nil _ ?_, .nil⟩
      · simp [writeVariants]
      · simp [skipGap, isBlank]
  | [v] =>
      obtain ⟨item, hvalue, htext⟩ := readValue_writeText v.name depth
        (show Unquoted '"' (']' :: rest) by simp [Unquoted]) (by simp [Unquoted])
      refine ⟨writeText v.name ++ ']' :: rest, [item], ?_, ?_, .cons htext .nil⟩
      · simp [writeVariants]
      · exact readItems_last (skipGap_writeText _ _) (writeText_ne_bracket _ _) hvalue
  | v :: w :: vs =>
      obtain ⟨items, hitems, htexts⟩ :=
        readItems_lines depth ((v :: w :: vs).map Variant.name) rest
      refine ⟨_, items, ?_, hitems, htexts⟩
      simp [writeVariants, writeItem, List.flatMap_map]

/-- A list of variants is decoded from what is written for it, and so is the empty
one. -/
theorem writes_variants (vs : List Variant) :
    Writes decodeVariants variantTrees vs (writeVariants vs) where
  starts rest := by
    obtain ⟨text, items, hhead, -⟩ := readItems_writeVariants 0 vs ('\n' :: rest)
    rw [hhead]
    exact skipBlanks_of_not_blank (by decide) _
  reads rest := by
    obtain ⟨text, items, hhead, hitems, htexts⟩ :=
      readItems_writeVariants (depthLimit - 2) vs ('\n' :: rest)
    rw [hhead]
    refine ⟨_, readValue_list hitems, mapM_decode_texts htexts, ?_⟩
    rw [Node.toTree?, treesOf?_texts htexts]
    rfl

/-- The entries that a setting leaves in a document: none if it has no value. -/
inductive Sets {α : Type} (name : String) (decode : Node → Decoded α) (tree : α → Tree) :
    Option α → List (Key × Node) → Prop
  | unset : Sets name decode tree none []
  | set {value : α} {n : Node} (span : Span) (hshows : Shows decode tree value n) :
      Sets name decode tree (some value) [(⟨name, span⟩, n)]

/-- A setting takes a line if it has a value and none if it has not, and the line says
the value. -/
theorem readStatements_writeSetting {α : Type} {decode : Node → Decoded α} {tree : α → Tree}
    {write : α → List Char} (name : String) (hname : isBareName name.toList = true)
    (hwrites : ∀ a, Writes decode tree a (write a)) (value : Option α) (rest : List Char) :
    ∃ line es, writeSetting name (writeOptional write value) = .ok line ∧
      Sets name decode tree value es ∧
      readStatements (line ++ rest) = (readStatements rest).map (settings es ++ ·) := by
  cases value with
  | none =>
      refine ⟨[], [], rfl, .unset, ?_⟩
      simp [settings]
  | some a =>
      obtain ⟨n, hread, hshows⟩ := (hwrites a).reads rest
      obtain ⟨span, hsetting⟩ :=
        readStatements_setting hname ((hwrites a).starts rest) hread
      refine ⟨_, _, rfl, .set span hshows, ?_⟩
      have htext : name.toList ++ " = ".toList ++ write a ++ "\n".toList ++ rest =
          name.toList ++ ' ' :: '=' :: ' ' :: (write a ++ '\n' :: rest) := by
        simp
      rw [htext, hsetting, String.ofList_toList]
      rfl

theorem decodeValue_ok {α : Type} {decode : Node → Decoded α} {n : Node} {a : α}
    (hdecode : decode n = .ok a) (key : Key) : decodeValue decode key n = .ok a := by
  rw [decodeValue, hdecode]
  rfl

theorem DetectionConfig.decodeEntries_sets {vs : List Variant} {es : List (Key × Node)}
    (hsets : Sets "disabled_variants" decodeVariants variantTrees (some vs) es) :
    DetectionConfig.decodeEntries es {} = .ok ⟨vs⟩ := by
  cases hsets with
  | set _ hshows =>
      rw [DetectionConfig.decodeEntries, if_pos rfl, decodeValue_ok hshows.decodes]
      rfl

/-- The line of the filter comes first and leaves the other setting open. -/
theorem TracingConfig.decodeEntries_filter {filter : Option String} {es : List (Key × Node)}
    (hsets : Sets "filter" decodeText .text filter es) (rest : List (Key × Node)) :
    TracingConfig.decodeEntries (es ++ rest) {} =
      TracingConfig.decodeEntries rest ⟨filter, none⟩ := by
  cases hsets with
  | unset => rfl
  | set _ hshows =>
      rw [List.singleton_append, TracingConfig.decodeEntries, if_pos rfl,
        decodeValue_ok hshows.decodes]
      rfl

theorem TracingConfig.decodeEntries_withTarget {filter : Option String}
    {withTarget : Option Bool} {es : List (Key × Node)}
    (hsets : Sets "with_target" decodeBoolean .boolean withTarget es) :
    TracingConfig.decodeEntries es ⟨filter, none⟩ = .ok ⟨filter, withTarget⟩ := by
  cases hsets with
  | unset => rfl
  | set _ hshows =>
      rw [TracingConfig.decodeEntries, if_neg (by simp), if_pos rfl,
        decodeValue_ok hshows.decodes]
      rfl

section

variable {α : Type} {name : String} {decode : Node → Decoded α} {tree : α → Tree}
  {value : Option α} {es : List (Key × Node)}

theorem Sets.keyNames_sublist (hsets : Sets name decode tree value es) :
    (keyNames es).Sublist [name] := by
  cases hsets with
  | unset => exact List.nil_sublist _
  | set _ _ => exact List.Sublist.refl _

theorem Sets.fieldsOf? (hsets : Sets name decode tree value es) :
    fieldsOf? es = some (value.toList.map fun a => (name, tree a)) := by
  cases hsets with
  | unset => rfl
  | set _ hshows =>
      rw [Document.fieldsOf?, hshows.plain]
      rfl

end

/-- What a document of the configuration sets, group by group. -/
structure Config.Lines (c : Config) where
  variants : List (Key × Node)
  filter : List (Key × Node)
  withTarget : List (Key × Node)
  sets_variants :
    Sets "disabled_variants" decodeVariants variantTrees (some c.detection.disabledVariants)
      variants
  sets_filter : Sets "filter" decodeText .text c.tracing.filter filter
  sets_withTarget : Sets "with_target" decodeBoolean .boolean c.tracing.withTarget withTarget

namespace Config.Lines

variable {c : Config} (l : c.Lines)

def detection (keySpan span : Span) : Group where
  key := ⟨"detection", keySpan⟩
  span := span
  entries := l.variants
  nodup := List.Nodup.sublist l.sets_variants.keyNames_sublist (by decide)

def tracing (keySpan span : Span) : Group where
  key := ⟨"tracing", keySpan⟩
  span := span
  entries := l.filter ++ l.withTarget
  nodup := by
    rw [keyNames, List.map_append]
    refine List.Nodup.sublist
      (l.sets_filter.keyNames_sublist.append l.sets_withTarget.keyNames_sublist) ?_
    decide

theorem decode_detection (keySpan span : Span) :
    DetectionConfig.decode (l.detection keySpan span).entry.2 = .ok c.detection :=
  DetectionConfig.decodeEntries_sets l.sets_variants

theorem decode_tracing (keySpan span : Span) :
    TracingConfig.decode (l.tracing keySpan span).entry.2 = .ok c.tracing := by
  have hfilter := TracingConfig.decodeEntries_filter l.sets_filter l.withTarget
  exact hfilter.trans (TracingConfig.decodeEntries_withTarget l.sets_withTarget)

/-- From the two groups that are written, the whole configuration is decoded. -/
theorem decode_groups (detection tracing span span' : Span) :
    Config.decodeEntries
      [(l.detection detection span).entry, (l.tracing tracing span').entry] {} = .ok c := by
  have hdetection := decodeValue_ok (l.decode_detection detection span) ⟨"detection", detection⟩
  have htracing := decodeValue_ok (l.decode_tracing tracing span') ⟨"tracing", tracing⟩
  change Config.decodeEntries [(⟨"detection", detection⟩, (l.detection detection span).entry.2),
    (⟨"tracing", tracing⟩, (l.tracing tracing span').entry.2)] {} = .ok c
  rw [Config.decodeEntries, if_pos rfl, hdetection]
  change Config.decodeEntries [(⟨"tracing", tracing⟩, (l.tracing tracing span').entry.2)]
    ⟨c.detection, {}⟩ = .ok c
  rw [Config.decodeEntries, if_neg (by simp), if_pos rfl, htracing]
  rfl

end Config.Lines

theorem readStatements_append {first second rest : List Char} {es es' : List (Key × Node)}
    (hfirst : readStatements (first ++ (second ++ rest)) =
      (readStatements (second ++ rest)).map (settings es ++ ·))
    (hsecond : readStatements (second ++ rest) =
      (readStatements rest).map (settings es' ++ ·)) :
    readStatements (first ++ second ++ rest) =
      (readStatements rest).map (settings (es ++ es') ++ ·) := by
  rw [List.append_assoc, hfirst, hsecond, Option.map_map]
  simp only [Function.comp_def, settings, List.map_append, List.append_assoc]

theorem readStatements_group {name : String} (hname : isBareName name.toList = true)
    {header body rest : List Char}
    (hheader : header = '[' :: (name.toList ++ [']', '\n'])) {es : List (Key × Node)}
    (hbody : readStatements (body ++ rest) = (readStatements rest).map (settings es ++ ·)) :
    ∃ keySpan span, readStatements (header ++ body ++ rest) =
      (readStatements rest).map
        (.header false ⟨[], ⟨name, keySpan⟩⟩ span :: settings es ++ ·) := by
  obtain ⟨keySpan, span, hread⟩ := readStatements_header hname (body ++ rest)
  have htext : header ++ body ++ rest =
      '[' :: (name.toList ++ ']' :: '\n' :: (body ++ rest)) := by
    simp [hheader]
  refine ⟨keySpan, span, ?_⟩
  rw [htext, hread, hbody, Option.map_map, String.ofList_toList]
  rfl

theorem readStatements_writeDetection (c : DetectionConfig) (rest : List Char) :
    ∃ text es keySpan span, c.write = .ok text ∧
      Sets "disabled_variants" decodeVariants variantTrees (some c.disabledVariants) es ∧
      readStatements (text ++ rest) = (readStatements rest).map
        (.header false ⟨[], ⟨"detection", keySpan⟩⟩ span :: settings es ++ ·) := by
  obtain ⟨line, es, hline, hsets, hbody⟩ := readStatements_writeSetting "disabled_variants"
    (by decide) writes_variants (some c.disabledVariants) rest
  obtain ⟨keySpan, span, hread⟩ :=
    readStatements_group (show isBareName "detection".toList = true by decide)
      (show "[detection]\n".toList = _ by rfl) hbody
  refine ⟨_, es, keySpan, span, ?_, hsets, hread⟩
  rw [writeOptional] at hline
  rw [DetectionConfig.write, hline]
  rfl

theorem readStatements_writeTracing (c : TracingConfig) :
    ∃ text es es' keySpan span, c.write = .ok text ∧
      Sets "filter" decodeText .text c.filter es ∧
      Sets "with_target" decodeBoolean .boolean c.withTarget es' ∧
      readStatements text =
        some (.header false ⟨[], ⟨"tracing", keySpan⟩⟩ span :: settings (es ++ es')) := by
  obtain ⟨second, es', hsecond, hwithTarget, hreadSecond⟩ :=
    readStatements_writeSetting "with_target" (by decide) writes_boolean c.withTarget []
  obtain ⟨first, es, hfirst, hfilter, hreadFirst⟩ :=
    readStatements_writeSetting "filter" (by decide) writes_text c.filter (second ++ [])
  obtain ⟨keySpan, span, hread⟩ :=
    readStatements_group (show isBareName "tracing".toList = true by decide)
      (show "[tracing]\n".toList = _ by rfl) (readStatements_append hreadFirst hreadSecond)
  refine ⟨"[tracing]\n".toList ++ (first ++ second), es, es', keySpan, span, ?_, hfilter,
    hwithTarget, ?_⟩
  · rw [TracingConfig.write, hfirst, hsecond]
    rfl
  · rw [List.append_nil, readStatements_nil, Option.map_some, List.append_nil] at hread
    exact hread

/-- The text of a configuration has two groups, with a line for each setting that has
a value. -/
theorem readStatements_encode (c : Config) :
    ∃ (l : c.Lines) (detection tracing span span' : Span),
      readStatements (dropMark c.encode.toList) =
        some ([l.detection detection span, l.tracing tracing span'].flatMap
          Group.statements) := by
  obtain ⟨second, filter, withTarget, tracing, span', hsecond, hfilter, hwithTarget, htracing⟩ :=
    readStatements_writeTracing c.tracing
  obtain ⟨first, variants, detection, span, hfirst, hvariants, hdetection⟩ :=
    readStatements_writeDetection c.detection ('\n' :: second)
  have hencode : c.encode = String.ofList (first ++ '\n' :: second) := by
    apply Config.encode_eq
    rw [Config.toText, Config.write, hfirst, hsecond]
    rfl
  refine ⟨⟨variants, filter, withTarget, hvariants, hfilter, hwithTarget⟩, detection, tracing,
    span, span', ?_⟩
  have hmark : dropMark (first ++ '\n' :: second) = first ++ '\n' :: second := by
    cases hfirst
    rfl
  rw [hencode, String.toList_ofList, hmark, hdetection, readStatements_newline, htracing]
  simp only [List.flatMap_cons, List.flatMap_nil, List.append_nil]
  rfl

theorem fromUTF8?_toUTF8 (s : String) : String.fromUTF8? s.toUTF8 = some s := by
  rw [String.fromUTF8?, String.toUTF8_eq_toByteArray, dif_pos s.isValidUTF8]
  rfl

namespace Config

/-- Every configuration is decoded from its own text. -/
theorem ofText_encode (c : Config) : ofText c.encode = .ok c := by
  obtain ⟨l, detection, tracing, span, span', hstatements⟩ := readStatements_encode c
  have hread := Group.read_plain hstatements (by
    change ["detection", "tracing"].Nodup
    decide)
  have hdecode := l.decode_groups detection tracing span span'
  rw [ofText, hread]
  exact congrArg (Except.mapError _) hdecode

/-- Every configuration can be written, and its text stands for it. A file with
this text loads as that configuration if it is valid, and else fails as its
validation does. -/
theorem load_encode (c : Config) (patterns : Text.Pattern.Reader) (path : Option String) :
    c.toText = .ok c.encode ∧ ofText c.encode = .ok c ∧
      (load (.ok c.encode.toUTF8) patterns path).value =
        (c.validate patterns).map fun _ => c := by
  refine ⟨c.toText_eq, ofText_encode c, ?_⟩
  rw [value_load]
  simp only [ofContent, Except.mapError, bind, Except.bind, fromUTF8?_toUTF8, ofText_encode]
  cases c.validate patterns <;> rfl

end Config

end MvvmSymbols
