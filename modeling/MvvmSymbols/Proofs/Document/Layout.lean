import MvvmSymbols.Document
import MvvmSymbols.Proofs.Document.Quotation

/-!
Lines and lists as they are written, and what the reader makes of them: a header
or a setting on each line, with one blank on either side of the equals sign, and
lists with an item per line.
-/

namespace MvvmSymbols.Document

theorem isContent_of_isBare {c : Char} (h : isBare c = true) : isContent c = true := by
  have htable : ∀ n < 128, isBare (Char.ofNat n) = true → isContent (Char.ofNat n) = true := by
    decide
  by_contra hcontrol
  have hsmall : c.toNat < 128 := by
    by_cases hlt : c < ' '
    · exact Nat.lt_trans hlt (by decide)
    · have hdelete : c = '\x7f' := by
        by_contra hne
        exact hcontrol (by simp [isContent, Char.not_lt.mp hlt, hne])
      rw [hdelete]
      decide
  have hcontent := htable c.toNat hsmall
  rw [Char.ofNat_toNat] at hcontent
  exact hcontrol (hcontent h)

theorem not_blank_of_isBare {c : Char} (h : isBare c = true) : isBlank c = false := by
  cases hblank : isBlank c with
  | false => rfl
  | true =>
      simp only [isBlank, Bool.or_eq_true, decide_eq_true_eq] at hblank
      rcases hblank with rfl | rfl <;> cases h

theorem skipBlanks_of_not_blank {c : Char} (h : isBlank c = false) (rest : List Char) :
    skipBlanks (c :: rest) = c :: rest := by
  rw [skipBlanks, List.dropWhile_cons_of_neg]
  simp [h]

def isBareName (name : List Char) : Bool := !name.isEmpty && name.all isBare

theorem isBareName_cons {c : Char} {name : List Char} :
    isBareName (c :: name) = true ↔ ∀ d ∈ c :: name, isBare d = true := by
  simp [isBareName]

/-- A bare name ends where the first other character stands. -/
theorem readName_bare {name rest : List Char} (hname : isBareName name = true)
    (hrest : ∀ c ∈ rest.head?, isBare c = false) :
    readName (name ++ rest) = some (String.ofList name, rest) := by
  cases name with
  | nil => cases hname
  | cons c name =>
      have hbare := isBareName_cons.mp hname
      have htake : (c :: name ++ rest).takeWhile isBare = c :: name := by
        rw [List.takeWhile_append_of_pos hbare]
        cases rest with
        | nil => simp
        | cons d rest => simp [hrest d rfl]
      have hdrop : (c :: name ++ rest).dropWhile isBare = rest := by
        rw [List.dropWhile_append_of_pos hbare]
        cases rest with
        | nil => simp
        | cons d rest => simp [hrest d rfl]
      have hc := hbare c List.mem_cons_self
      rw [List.cons_append] at htake hdrop ⊢
      rw [readName, htake, hdrop]
      · rfl
      · intro cs heq
        cases heq
        cases hc
      · intro cs heq
        cases heq
        cases hc

theorem skipBlanks_bare {name : List Char} (hname : isBareName name = true) (rest : List Char) :
    skipBlanks (name ++ rest) = name ++ rest := by
  cases name with
  | nil => cases hname
  | cons c name =>
      have hc := isBareName_cons.mp hname c List.mem_cons_self
      exact skipBlanks_of_not_blank (not_blank_of_isBare hc) _

/-- A single bare name is a path, if no dot comes after it. -/
theorem readPath_bare {name rest : List Char} (hname : isBareName name = true)
    (hrest : ∀ c ∈ rest.head?, isBare c = false) (hdot : ∀ r, skipBlanks rest ≠ '.' :: r) :
    ∃ span, readPath (name ++ rest) =
      some (⟨[], ⟨String.ofList name, span⟩⟩, skipBlanks rest) := by
  have hkey : readKey (name ++ rest) =
      some (⟨String.ofList name, ⟨(name ++ rest).length, rest.length⟩⟩, skipBlanks rest) := by
    simp only [readKey, skipBlanks_bare hname, readName_bare hname hrest]
    rfl
  have hkeys : readKeys (name ++ rest) =
      some ([⟨String.ofList name, ⟨(name ++ rest).length, rest.length⟩⟩], skipBlanks rest) := by
    rw [readKeys, hkey]
    split
    · rename_i heq
      exact absurd (Prod.mk.inj (Option.some.inj heq)).2 (hdot _)
    · rename_i heq
      obtain ⟨hkey', hrest'⟩ := Prod.mk.inj (Option.some.inj heq)
      rw [← hkey', ← hrest']
    · rename_i heq
      cases heq
  refine ⟨⟨(name ++ rest).length, rest.length⟩, ?_⟩
  unfold readPath
  rw [hkeys]
  rfl

theorem readStatements_nil : readStatements [] = some [] := by
  rw [readStatements]
  rfl

/-- Empty lines say nothing. -/
theorem readStatements_newline (rest : List Char) :
    readStatements ('\n' :: rest) = readStatements rest := by
  rw [readStatements]
  simp [skipBlanks, isBlank, skipComment, newline?]

/-- A line that begins with a statement gives that statement, and then what the
next lines give. -/
theorem readStatements_cons {c : Char} {text rest : List Char} {statement : Statement}
    (hcontent : isContent c = true) (hblank : isBlank c = false) (hcomment : c ≠ '#')
    (hread : readStatement (c :: text) = some (statement, '\n' :: rest))
    (hshorter : rest.length ≤ text.length) :
    readStatements (c :: text) = (readStatements rest).map (statement :: ·) := by
  have hstart : skipComment (skipBlanks (c :: text)) = c :: text := by
    rw [skipBlanks_of_not_blank hblank, skipComment]
    rintro _ heq
    exact hcomment (List.cons.inj heq).1
  have hend : lineEnd? ('\n' :: rest) = some rest := rfl
  have hlength : rest.length < (c :: text).length := Nat.lt_succ_of_le hshorter
  rw [readStatements, hstart]
  simp only [newline?_content hcontent, hread, hend, if_pos hlength]

theorem readHeader_plain {name : List Char} (hname : isBareName name = true) (start : Nat)
    (rest : List Char) :
    ∃ span, readHeader start (name ++ ']' :: rest) =
      some (.header false ⟨[], ⟨String.ofList name, span⟩⟩ ⟨start, rest.length⟩, rest) := by
  have hbracket : skipBlanks (']' :: rest) = ']' :: rest := skipBlanks_of_not_blank (by decide) _
  obtain ⟨span, hpath⟩ := readPath_bare hname (by simp; decide)
    (show ∀ r, skipBlanks (']' :: rest) ≠ '.' :: r by simp [hbracket])
  refine ⟨span, ?_⟩
  rw [readHeader, hpath, hbracket]
  · rfl
  · intro cs heq
    cases name with
    | nil => cases hname
    | cons c name =>
        cases heq
        cases isBareName_cons.mp hname '[' List.mem_cons_self

/-- A header on a line of its own. -/
theorem readStatements_header {name : List Char} (hname : isBareName name = true)
    (rest : List Char) :
    ∃ keySpan span, readStatements ('[' :: (name ++ ']' :: '\n' :: rest)) =
      (readStatements rest).map
        (.header false ⟨[], ⟨String.ofList name, keySpan⟩⟩ span :: ·) := by
  obtain ⟨keySpan, hread⟩ := readHeader_plain hname
    ((name ++ ']' :: '\n' :: rest).length + 1) ('\n' :: rest)
  refine ⟨keySpan, _, readStatements_cons (by decide) (by decide) (by decide) hread ?_⟩
  simp only [List.length_append, List.length_cons]
  omega

/-- A bare name, an equals sign with a blank on each side, and a value. -/
theorem readEntry_plain {value : Reader Node} {name text rest : List Char} {node : Node}
    (hname : isBareName name = true) (htext : skipBlanks text = text)
    (hvalue : value text = some (node, '\n' :: rest)) :
    ∃ span, readEntry value (name ++ ' ' :: '=' :: ' ' :: text) =
      some (⟨⟨[], ⟨String.ofList name, span⟩⟩, node⟩, '\n' :: rest) := by
  have hequals : skipBlanks (' ' :: '=' :: ' ' :: text) = '=' :: ' ' :: text := by
    simp [skipBlanks, isBlank]
  obtain ⟨span, hpath⟩ := readPath_bare hname (by simp; decide)
    (show ∀ r, skipBlanks (' ' :: '=' :: ' ' :: text) ≠ '.' :: r by simp [hequals])
  have hskip : skipBlanks (' ' :: text) = text := by
    refine Eq.trans ?_ htext
    simp [skipBlanks, isBlank]
  refine ⟨span, ?_⟩
  rw [readEntry, hpath, hequals]
  simp only [hskip, hvalue]
  rfl

/-- A setting on a line of its own, with a value that does not begin with a blank. -/
theorem readStatements_setting {name written rest : List Char} {node : Node}
    (hname : isBareName name = true)
    (hwritten : skipBlanks (written ++ '\n' :: rest) = written ++ '\n' :: rest)
    (hvalue : readValue (depthLimit - 1) (written ++ '\n' :: rest) = some (node, '\n' :: rest)) :
    ∃ span, readStatements (name ++ ' ' :: '=' :: ' ' :: (written ++ '\n' :: rest)) =
      (readStatements rest).map (.entry ⟨⟨[], ⟨String.ofList name, span⟩⟩, node⟩ :: ·) := by
  obtain ⟨span, hentry⟩ := readEntry_plain hname hwritten hvalue
  cases name with
  | nil => cases hname
  | cons c name =>
      have hc := isBareName_cons.mp hname c List.mem_cons_self
      have hne : ∀ x, isBare x = false → c ≠ x := by
        rintro x hx rfl
        rw [hc] at hx
        cases hx
      have hread : readStatement (c :: (name ++ ' ' :: '=' :: ' ' :: (written ++ '\n' :: rest))) =
          some (.entry ⟨⟨[], ⟨String.ofList (c :: name), span⟩⟩, node⟩, '\n' :: rest) := by
        rw [readStatement, ← List.cons_append, hentry]
        · rfl
        · intro cs heq
          exact hne '[' (by decide) (List.cons.inj heq).1
      rw [List.cons_append]
      refine ⟨span, readStatements_cons (isContent_of_isBare hc) (not_blank_of_isBare hc)
        (hne '#' (by decide)) hread ?_⟩
      simp only [List.length_append, List.length_cons]
      omega

theorem writeText_head (s : String) :
    ∃ quote r, writeText s = quote :: r ∧ (quote = '"' ∨ quote = '\'') := by
  unfold writeText
  cases QuoteStyle.choose s.toList with
  | basic => exact ⟨'"', _, rfl, Or.inl rfl⟩
  | literal => exact ⟨'\'', _, rfl, Or.inr rfl⟩
  | multiBasic => exact ⟨'"', _, rfl, Or.inl rfl⟩
  | multiLiteral => exact ⟨'\'', _, rfl, Or.inr rfl⟩

/-- A text is read back if what follows does not lengthen the quotes at its end. -/
theorem readScalar_writeText (s : String) {rest : List Char} (hdouble : Unquoted '"' rest)
    (hsingle : Unquoted '\'' rest) : readScalar (writeText s ++ rest) = some (.text s, rest) := by
  have hread := readQuotation_writeText s hdouble hsingle
  obtain ⟨quote, r, hhead, hquote⟩ := writeText_head s
  rw [hhead] at hread ⊢
  have hscalar : readScalar (quote :: r ++ rest) =
      (readQuotation (quote :: r ++ rest)).map fun p => (.text (String.ofList p.1), p.2) := by
    rcases hquote with rfl | rfl <;> rfl
  rw [hscalar, hread, Option.map_some, String.ofList_toList]

/-- Scalars are read alike at every depth. -/
theorem readValue_scalar {c : Char} {text : List Char} (hlist : c ≠ '[') (htable : c ≠ '\x7b')
    (depth : Nat) :
    readValue depth (c :: text) = (readScalar (c :: text)).map fun p =>
      (.scalar ⟨(c :: text).length, p.2.length⟩ p.1, p.2) := by
  cases depth with
  | zero => rfl
  | succ depth =>
      rw [readValue]
      · intro start heq
        exact hlist (List.cons.inj heq).1
      · intro start heq
        exact htable (List.cons.inj heq).1

/-- The node is a text, wherever it stands. -/
def IsText (s : String) (n : Node) : Prop := ∃ span, n = .scalar span (.text s)

theorem readValue_writeText (s : String) (depth : Nat) {rest : List Char}
    (hdouble : Unquoted '"' rest) (hsingle : Unquoted '\'' rest) :
    ∃ n, readValue depth (writeText s ++ rest) = some (n, rest) ∧ IsText s n := by
  have hread := readScalar_writeText s hdouble hsingle
  obtain ⟨quote, r, hhead, hquote⟩ := writeText_head s
  rw [hhead, List.cons_append] at hread ⊢
  have hlist : quote ≠ '[' := by rcases hquote with rfl | rfl <;> decide
  have htable : quote ≠ '\x7b' := by rcases hquote with rfl | rfl <;> decide
  rw [readValue_scalar hlist htable, hread]
  exact ⟨_, rfl, _, rfl⟩

theorem skipBlanks_writeText (s : String) (rest : List Char) :
    skipBlanks (writeText s ++ rest) = writeText s ++ rest := by
  obtain ⟨quote, r, hhead, hquote⟩ := writeText_head s
  rw [hhead, List.cons_append]
  refine skipBlanks_of_not_blank ?_ _
  rcases hquote with rfl | rfl <;> decide

theorem skipGap_writeText (s : String) (rest : List Char) :
    skipGap false (writeText s ++ rest) = writeText s ++ rest := by
  obtain ⟨quote, r, hhead, hquote⟩ := writeText_head s
  rw [hhead, List.cons_append]
  rcases hquote with rfl | rfl <;> simp [skipGap, isBlank]

/-- A bracket ends the list, whatever the gap in front of it. -/
theorem readItems_nil (value : Reader Node) {cs rest : List Char}
    (hgap : skipGap false cs = ']' :: rest) : readItems value cs = some ([], rest) := by
  rw [readItems, hgap]
  rfl

/-- An item with a comma after it is followed by what the rest of the list holds. -/
theorem readItems_cons {value : Reader Node} {cs start rest : List Char} {item : Node}
    (hgap : skipGap false cs = start) (hopen : ∀ r, start ≠ ']' :: r)
    (hvalue : value start = some (item, ',' :: rest)) (hshorter : rest.length < cs.length) :
    readItems value cs = (readItems value rest).map fun p => (item :: p.1, p.2) := by
  have hcomma : skipGap false (',' :: rest) = ',' :: rest := by
    simp [skipGap, isBlank]
  rw [readItems, hgap]
  split
  · exact absurd rfl (hopen _)
  · simp only [hvalue, hcomma, if_pos hshorter]

/-- A list may end right after an item. -/
theorem readItems_last {value : Reader Node} {cs start rest : List Char} {item : Node}
    (hgap : skipGap false cs = start) (hopen : ∀ r, start ≠ ']' :: r)
    (hvalue : value start = some (item, ']' :: rest)) :
    readItems value cs = some ([item], rest) := by
  have hbracket : skipGap false (']' :: rest) = ']' :: rest := by
    simp [skipGap, isBlank]
  rw [readItems, hgap]
  split
  · exact absurd rfl (hopen _)
  · simp only [hvalue, hbracket]

/-- A text does not begin with the bracket that ends a list. -/
theorem writeText_ne_bracket (s : String) (rest r : List Char) :
    writeText s ++ rest ≠ ']' :: r := by
  obtain ⟨quote, text, hhead, hquote⟩ := writeText_head s
  rw [hhead, List.cons_append]
  rintro heq
  rcases hquote with rfl | rfl <;> cases heq

/-- A list is read as its items are. -/
theorem readValue_list {depth : Nat} {text rest : List Char} {items : List Node}
    (hitems : readItems (readValue depth) text = some (items, rest)) :
    readValue (depth + 1) ('[' :: text) =
      some (.list ⟨text.length + 1, rest.length⟩ items, rest) := by
  rw [readValue, hitems]
  rfl

def writeItem (s : String) : List Char := "    ".toList ++ writeText s ++ ",\n".toList

theorem writeItem_append (s : String) (rest : List Char) :
    writeItem s ++ rest = "    ".toList ++ (writeText s ++ ',' :: '\n' :: rest) := by
  simp [writeItem]

/-- A list with a text on each line, after its bracket. -/
theorem readItems_lines (depth : Nat) (ss : List String) (rest : List Char) :
    ∃ items, readItems (readValue depth) ('\n' :: (ss.flatMap writeItem ++ ']' :: rest)) =
      some (items, rest) ∧ List.Forall₂ IsText ss items := by
  induction ss with
  | nil => exact ⟨[], readItems_nil _ (by simp [skipGap, isBlank]), .nil⟩
  | cons s ss ih =>
      obtain ⟨items, hitems, htexts⟩ := ih
      rw [List.flatMap_cons, List.append_assoc, writeItem_append]
      generalize ss.flatMap writeItem ++ ']' :: rest = lines at hitems
      have hgap : skipGap false
          ('\n' :: ("    ".toList ++ (writeText s ++ ',' :: '\n' :: lines))) =
            writeText s ++ ',' :: '\n' :: lines := by
        refine Eq.trans ?_ (skipGap_writeText s _)
        simp [skipGap, isBlank]
      obtain ⟨item, hvalue, htext⟩ :=
        readValue_writeText s depth (show Unquoted '"' (',' :: '\n' :: lines) by simp [Unquoted])
          (by simp [Unquoted])
      refine ⟨item :: items, ?_, .cons htext htexts⟩
      rw [readItems_cons hgap (writeText_ne_bracket s _) hvalue, hitems]
      · rfl
      · simp only [List.length_cons, List.length_append]
        omega

end MvvmSymbols.Document
