import Mathlib.Data.List.Basic
import Mathlib.Tactic.SplitIfs
import MvvmSymbols.Document.Quotation
import MvvmSymbols.Document.Quote

/-!
Texts between quotes can be read back: whatever style is chosen for a text, the
reader finds the text and stops right after the closing quotes. Over several
lines this hangs on the count of quotes: never do three of them stand together
before the closing ones, of which the reader gives up to two to the text.
-/

namespace MvvmSymbols.Document

theorem prepend_some (c : Char) (cs rest : List Char) :
    prepend c (some (cs, rest)) = some (c :: cs, rest) := rfl

/-- Below 128, two digits in base 16 after two zeros give the character back. -/
theorem charOfHex?_hexDigits {n : Nat} (h : n < 128) :
    charOfHex? ['0', '0', hexDigit (n / 16), hexDigit (n % 16)] = some (Char.ofNat n) := by
  revert h n
  decide

/-- An escape is a letter after a backslash, or a code point in base 16. -/
theorem escaped?_eq_some {c : Char} {e : List Char} (h : escaped? c = some e) :
    (∃ l, e = ['\\', l] ∧ escape? l = some c) ∨
      ∃ a b, e = ['\\', 'u', '0', '0', a, b] ∧ charOfHex? ['0', '0', a, b] = some c := by
  unfold escaped? at h
  split_ifs at h with hb ht hf hr hslash hcontrol
  case pos => subst hb; cases h; exact Or.inl ⟨_, rfl, rfl⟩
  case pos => subst ht; cases h; exact Or.inl ⟨_, rfl, rfl⟩
  case pos => subst hf; cases h; exact Or.inl ⟨_, rfl, rfl⟩
  case pos => subst hr; cases h; exact Or.inl ⟨_, rfl, rfl⟩
  case pos => subst hslash; cases h; exact Or.inl ⟨_, rfl, rfl⟩
  case pos =>
    cases h
    have hsmall : c.toNat < 128 := by
      rcases hcontrol with hlt | rfl
      · exact Nat.lt_trans hlt (by decide)
      · decide
    refine Or.inr ⟨_, _, rfl, ?_⟩
    rw [charOfHex?_hexDigits hsmall, Char.ofNat_toNat]

/-- What needs no escape can stand for itself. -/
theorem content_of_escaped?_eq_none {c : Char} (h : escaped? c = none) :
    isContent c = true ∧ c ≠ '\\' := by
  unfold escaped? at h
  split_ifs at h with hb ht hf hr hslash hcontrol
  obtain ⟨hlt, hdelete⟩ := not_or.mp hcontrol
  have hle : ' ' ≤ c := Char.not_lt.mp hlt
  exact ⟨by simp [isContent, hle, hdelete], hslash⟩

/-- What is no hidden control character is a line end or may stand in a text. -/
theorem content_of_not_hidden {c : Char} (h : isHiddenControl c = false) :
    c = '\n' ∨ isContent c = true := by
  simp only [isHiddenControl, Bool.or_eq_false_iff, Bool.and_eq_false_iff, decide_eq_false_iff_not,
    not_not, ne_eq] at h
  obtain ⟨(hle | rfl) | rfl, hdelete⟩ := h
  · exact Or.inr (by simp [isContent, Char.not_lt.mp hle, hdelete])
  · exact Or.inr rfl
  · exact Or.inl rfl

theorem newline?_content {c : Char} (hc : isContent c = true) (rest : List Char) :
    newline? (c :: rest) = none := by
  unfold newline?
  split
  · rename_i heq
    cases heq
    simp [isContent] at hc
  · rename_i heq
    cases heq
    simp [isContent] at hc
  · rfl

/-- What is written for a character begins with one that may stand in a text. -/
theorem escaped?_getD_head {c : Char} (hquote : c ≠ '"') :
    ∃ d r, (escaped? c).getD [c] = d :: r ∧ isContent d = true ∧ d ≠ '"' := by
  cases hescaped : escaped? c with
  | none => exact ⟨c, [], rfl, (content_of_escaped?_eq_none hescaped).1, hquote⟩
  | some e =>
      rcases escaped?_eq_some hescaped with ⟨l, rfl, -⟩ | ⟨a, b, rfl, -⟩
      · exact ⟨'\\', _, rfl, by decide, by decide⟩
      · exact ⟨'\\', _, rfl, by decide, by decide⟩

/-- What readers between double quotes have in common: the escapes, and the
characters that stand for themselves. -/
structure ReadsEscapes (read : Reader (List Char)) : Prop where
  letter : ∀ {c l : Char}, escape? l = some c →
    ∀ rest, read ('\\' :: l :: rest) = prepend c (read rest)
  hex : ∀ a b rest, read ('\\' :: 'u' :: '0' :: '0' :: a :: b :: rest) =
    prependEscaped (charOfHex? ['0', '0', a, b]) (read rest)
  content : ∀ {c : Char}, isContent c = true → c ≠ '\\' → c ≠ '"' →
    ∀ rest, read (c :: rest) = prepend c (read rest)

/-- A character is read back from its escape, or from itself where it has none. -/
theorem ReadsEscapes.escaped {read : Reader (List Char)} (h : ReadsEscapes read) {c : Char}
    (hquote : c ≠ '"') (rest : List Char) :
    read ((escaped? c).getD [c] ++ rest) = prepend c (read rest) := by
  cases hescaped : escaped? c with
  | none =>
      obtain ⟨hcontent, hslash⟩ := content_of_escaped?_eq_none hescaped
      exact h.content hcontent hslash hquote rest
  | some e =>
      rcases escaped?_eq_some hescaped with ⟨l, rfl, hl⟩ | ⟨a, b, rfl, hhex⟩
      · exact h.letter hl rest
      · refine (h.hex a b rest).trans ?_
        rw [hhex]
        rfl

/-- The text does not go on with a quote. -/
def Unquoted (quote : Char) (text : List Char) : Prop := text.head? ≠ some quote

/-- What readers over several lines have in common: a quote belongs to the text
unless two more follow, and up to two quotes before the closing ones do too. -/
structure ReadsQuotes (read : Reader (List Char)) (quote : Char) : Prop where
  inside : ∀ text, (∀ r, text ≠ quote :: quote :: r) →
    read (quote :: text) = prepend quote (read text)
  closing : ∀ q ≤ 2, ∀ rest, Unquoted quote rest →
    read (List.replicate q quote ++ quote :: quote :: quote :: rest) =
      some (List.replicate q quote, rest)

/-- One or two quotes in a row stand for themselves. -/
theorem ReadsQuotes.replicate {read : Reader (List Char)} {quote : Char}
    (h : ReadsQuotes read quote) {q : Nat} (hq : q ≤ 2) {text cs rest : List Char}
    (htext : Unquoted quote text) (hread : read text = some (cs, rest)) :
    read (List.replicate q quote ++ text) = some (List.replicate q quote ++ cs, rest) := by
  have hfirst : ∀ r, text ≠ quote :: r := by
    rintro r rfl
    exact htext rfl
  match q, hq with
  | 0, _ => exact hread
  | 1, _ =>
      change read (quote :: text) = _
      rw [h.inside text fun r => hfirst _, hread]
      rfl
  | 2, _ =>
      change read (quote :: quote :: text) = _
      rw [h.inside (quote :: text), h.inside text fun r => hfirst _, hread]
      · rfl
      · intro r heq
        exact hfirst r (List.cons.inj heq).2

theorem readBasic_readsEscapes : ReadsEscapes readBasic := by
  constructor
  case letter =>
    intro c l h rest
    unfold escape? at h
    split at h <;> cases h <;> rfl
  case hex =>
    intro a b rest
    rfl
  case content =>
    intro c hc hslash hquote rest
    rw [readBasic] <;> simp_all

theorem escapeBasic_cons (c : Char) (cs : List Char) :
    escapeBasic (c :: cs) = escapeBasic [c] ++ escapeBasic cs := by
  simp [escapeBasic]

theorem escapeBasic_singleton (c : Char) :
    escapeBasic [c] = if c = '"' then ['\\', '"'] else if c = '\n' then ['\\', 'n']
      else (escaped? c).getD [c] := by
  simp [escapeBasic]

theorem readBasic_singleton (c : Char) (text : List Char) :
    readBasic (escapeBasic [c] ++ text) = prepend c (readBasic text) := by
  rw [escapeBasic_singleton]
  split_ifs with hquote hline
  · subst hquote
    exact readBasic_readsEscapes.letter rfl text
  · subst hline
    exact readBasic_readsEscapes.letter rfl text
  · exact readBasic_readsEscapes.escaped hquote text

/-- A text on one line is read back, up to the quote that ends it. -/
theorem readBasic_escapeBasic (cs rest : List Char) :
    readBasic (escapeBasic cs ++ '"' :: rest) = some (cs, rest) := by
  induction cs with
  | nil => rfl
  | cons c cs ih =>
      rw [escapeBasic_cons, List.append_assoc, readBasic_singleton, ih, prepend_some]

theorem readMultiBasic_readsEscapes : ReadsEscapes (readMultiBasic false) := by
  constructor
  case letter =>
    intro c l h rest
    unfold escape? at h
    split at h <;> cases h <;> rfl
  case hex =>
    intro a b rest
    rfl
  case content =>
    intro c hc hslash hquote rest
    rw [readMultiBasic] <;> simp_all
    rintro _ rfl -
    simp [isContent] at hc

/-- Over several lines, quotes end the text only where three of them stand together. -/
theorem readMultiBasic_readsQuotes : ReadsQuotes (readMultiBasic false) '"' := by
  constructor
  case inside =>
    intro text h
    rw [readMultiBasic] <;> simp_all [isContent]
  case closing =>
    intro q hq rest hrest
    have hfirst : ∀ r, rest ≠ '"' :: r := by
      rintro r rfl
      exact hrest rfl
    match q, hq with
    | 0, _ =>
        change readMultiBasic false ('"' :: '"' :: '"' :: rest) = _
        rw [readMultiBasic] <;> simp_all
    | 1, _ =>
        change readMultiBasic false ('"' :: '"' :: '"' :: '"' :: rest) = _
        rw [readMultiBasic] <;> simp_all
    | 2, _ => rfl

theorem escapeMulti_singleton {c : Char} (hquote : c ≠ '"') :
    escapeMulti 0 [c] = if c = '\n' then ['\n'] else (escaped? c).getD [c] := by
  by_cases hline : c = '\n' <;> simp [escapeMulti, hquote, hline]

/-- What is no quote ends a run of quotes, so the count starts again. -/
theorem escapeMulti_cons {q : Nat} {c : Char} (hquote : c ≠ '"') (cs : List Char) :
    escapeMulti q (c :: cs) = escapeMulti 0 [c] ++ escapeMulti 0 cs := by
  by_cases hline : c = '\n' <;> simp [escapeMulti, hquote, hline]

theorem readMultiBasic_singleton {c : Char} (hquote : c ≠ '"') (text : List Char) :
    readMultiBasic false (escapeMulti 0 [c] ++ text) = prepend c (readMultiBasic false text) := by
  rw [escapeMulti_singleton hquote]
  split_ifs with hline
  · subst hline
    rfl
  · exact readMultiBasic_readsEscapes.escaped hquote text

theorem escapeMulti_singleton_head {c : Char} (hquote : c ≠ '"') :
    ∃ d r, escapeMulti 0 [c] = d :: r ∧ d ≠ '"' ∧ (c ≠ '\n' → isContent d = true) := by
  rw [escapeMulti_singleton hquote]
  split_ifs with hline
  · exact ⟨'\n', [], rfl, by decide, fun h => absurd hline h⟩
  · obtain ⟨d, r, hhead, hcontent, hd⟩ := escaped?_getD_head hquote
    exact ⟨d, r, hhead, hd, fun _ => hcontent⟩

/-- The invariant of writing over several lines: whatever number of quotes, up to
two, has just been written, what follows is read as the text that follows. -/
theorem readMultiBasic_escapeMulti (cs : List Char) {q : Nat} (hq : q ≤ 2) {rest : List Char}
    (hrest : Unquoted '"' rest) :
    readMultiBasic false
        (List.replicate q '"' ++ (escapeMulti q cs ++ '"' :: '"' :: '"' :: rest)) =
      some (List.replicate q '"' ++ cs, rest) := by
  induction cs generalizing q with
  | nil =>
      rw [List.append_nil]
      exact readMultiBasic_readsQuotes.closing q hq rest hrest
  | cons c cs ih =>
      have hnext := ih (q := 0) (by omega)
      by_cases hquote : c = '"'
      · subst hquote
        by_cases hfew : q < 2
        · have hwritten : escapeMulti q ('"' :: cs) = '"' :: escapeMulti (q + 1) cs := by
            simp [escapeMulti, hfew]
          have hread := ih (q := q + 1) hfew
          rw [List.replicate_succ', List.append_assoc, List.append_assoc] at hread
          rw [hwritten]
          exact hread
        · have hwritten : escapeMulti q ('"' :: cs) = '\\' :: '"' :: escapeMulti 0 cs := by
            simp [escapeMulti, hfew]
          rw [hwritten]
          refine readMultiBasic_readsQuotes.replicate hq (by simp [Unquoted]) ?_
          exact (readMultiBasic_readsEscapes.letter rfl _).trans (congrArg (prepend '"') hnext)
      · obtain ⟨d, r, hhead, hd, -⟩ := escapeMulti_singleton_head hquote
        rw [escapeMulti_cons hquote, List.append_assoc]
        refine readMultiBasic_readsQuotes.replicate hq (by simp [Unquoted, hhead, hd]) ?_
        rw [readMultiBasic_singleton hquote]
        exact congrArg (prepend c) hnext

/-- The extra line end before a text of several lines is all that is dropped. -/
theorem dropNewline_leadingNewline {cs text : List Char}
    (hfirst : '\n' ∉ cs → newline? text = none) :
    dropNewline (leadingNewline cs ++ text) = text := by
  unfold leadingNewline
  split_ifs with hlines
  · rfl
  · have hnone := hfirst (by simpa using hlines)
    rw [List.nil_append, dropNewline, hnone]
    rfl

theorem newline?_escapeMulti {cs : List Char} (hlines : '\n' ∉ cs) (rest : List Char) :
    newline? (escapeMulti 0 cs ++ '"' :: rest) = none := by
  cases cs with
  | nil => rfl
  | cons c cs =>
      by_cases hquote : c = '"'
      · subst hquote
        rfl
      · have hline : c ≠ '\n' := fun heq => hlines (heq ▸ List.mem_cons_self)
        obtain ⟨d, r, hhead, -, hd⟩ := escapeMulti_singleton_head hquote
        rw [escapeMulti_cons hquote, hhead]
        exact newline?_content (hd hline) _

/-- Between single quotes every character stands for itself. -/
theorem readLiteral_append {cs : List Char} (hcs : ∀ c ∈ cs, isContent c = true ∧ c ≠ '\'')
    (rest : List Char) : readLiteral (cs ++ '\'' :: rest) = some (cs, rest) := by
  induction cs with
  | nil => rfl
  | cons c cs ih =>
      obtain ⟨⟨hcontent, hquote⟩, htail⟩ := List.forall_mem_cons.mp hcs
      rw [List.cons_append, readLiteral, if_pos hcontent, ih htail, prepend_some]
      exact hquote

theorem readMultiLiteral_readsQuotes : ReadsQuotes readMultiLiteral '\'' := by
  constructor
  case inside =>
    intro text h
    rw [readMultiLiteral] <;> simp_all [isContent]
  case closing =>
    intro q hq rest hrest
    have hfirst : ∀ r, rest ≠ '\'' :: r := by
      rintro r rfl
      exact hrest rfl
    match q, hq with
    | 0, _ =>
        change readMultiLiteral ('\'' :: '\'' :: '\'' :: rest) = _
        rw [readMultiLiteral] <;> simp_all
    | 1, _ =>
        change readMultiLiteral ('\'' :: '\'' :: '\'' :: '\'' :: rest) = _
        rw [readMultiLiteral] <;> simp_all
    | 2, _ => rfl

/-- Between triple single quotes a line end stands for itself too. -/
theorem readMultiLiteral_content {c : Char} {rest : List Char}
    (hc : c = '\n' ∨ isContent c = true) (hquote : c ≠ '\'') :
    readMultiLiteral (c :: rest) = prepend c (readMultiLiteral rest) := by
  rw [readMultiLiteral] <;> simp_all
  rintro _ rfl -
  simp [isContent] at hc

/-- One step of counting the longest run: the longest one so far and the current one. -/
def runStep (x : Char) (state : Nat × Nat) (c : Char) : Nat × Nat :=
  if c = x then (max state.1 (state.2 + 1), state.2 + 1) else (state.1, 0)

theorem longestRun_eq_foldl (x : Char) (cs : List Char) :
    longestRun x cs = (cs.foldl (runStep x) (0, 0)).1 := rfl

theorem le_foldl_runStep (x : Char) (cs : List Char) (state : Nat × Nat) :
    state.1 ≤ (cs.foldl (runStep x) state).1 := by
  induction cs generalizing state with
  | nil => exact Nat.le_refl _
  | cons c cs ih =>
      refine Nat.le_trans ?_ (ih (runStep x state c))
      unfold runStep
      split_ifs
      · exact Nat.le_max_left _ _
      · exact Nat.le_refl _

theorem not_mem_of_longestRun_eq_zero {x : Char} {cs : List Char} (h : longestRun x cs = 0) :
    x ∉ cs := by
  intro hmem
  obtain ⟨before, after, rfl⟩ := List.append_of_mem hmem
  rw [longestRun_eq_foldl, List.foldl_append, List.foldl_cons] at h
  have hle := le_foldl_runStep x after (runStep x (before.foldl (runStep x) (0, 0)) x)
  rw [h, runStep, if_pos rfl] at hle
  have hmax := Nat.le_max_right (before.foldl (runStep x) (0, 0)).1
    ((before.foldl (runStep x) (0, 0)).2 + 1)
  omega

/-- The invariant here is the count of runs itself: no run of quotes grows past
two, whatever part of one has just been read. -/
theorem readMultiLiteral_append {cs : List Char}
    (hcs : ∀ c ∈ cs, c = '\n' ∨ isContent c = true) {q longest : Nat} (hq : q ≤ 2)
    (hrun : (cs.foldl (runStep '\'') (longest, q)).1 ≤ 2) {rest : List Char}
    (hrest : Unquoted '\'' rest) :
    readMultiLiteral (List.replicate q '\'' ++ (cs ++ '\'' :: '\'' :: '\'' :: rest)) =
      some (List.replicate q '\'' ++ cs, rest) := by
  induction cs generalizing q longest with
  | nil =>
      rw [List.append_nil]
      exact readMultiLiteral_readsQuotes.closing q hq rest hrest
  | cons c cs ih =>
      obtain ⟨hc, htail⟩ := List.forall_mem_cons.mp hcs
      rw [List.foldl_cons] at hrun
      by_cases hquote : c = '\''
      · subst hquote
        rw [runStep, if_pos rfl] at hrun
        have hlongest := le_foldl_runStep '\'' cs (max longest (q + 1), q + 1)
        have hmore : q + 1 ≤ 2 :=
          Nat.le_trans (Nat.le_max_right longest (q + 1)) (Nat.le_trans hlongest hrun)
        have hread := ih htail hmore hrun
        rw [List.replicate_succ', List.append_assoc, List.append_assoc] at hread
        exact hread
      · rw [runStep, if_neg hquote] at hrun
        have hread := ih htail (by omega) hrun
        refine readMultiLiteral_readsQuotes.replicate hq (by simp [Unquoted, hquote]) ?_
        exact (readMultiLiteral_content hc hquote).trans (congrArg (prepend c) hread)

theorem newline?_literal {cs : List Char} (hcs : ∀ c ∈ cs, c = '\n' ∨ isContent c = true)
    (hlines : '\n' ∉ cs) (rest : List Char) : newline? (cs ++ '\'' :: rest) = none := by
  cases cs with
  | nil => rfl
  | cons c cs =>
      rcases hcs c List.mem_cons_self with rfl | hcontent
      · exact absurd List.mem_cons_self hlines
      · exact newline?_content hcontent _

/-- What a style asks of a text: between single quotes nothing can be escaped. -/
def QuoteStyle.Fits (cs : List Char) : QuoteStyle → Prop
  | .basic | .multiBasic => True
  | .literal => ∀ c ∈ cs, isContent c = true ∧ c ≠ '\''
  | .multiLiteral =>
    (∀ c ∈ cs, c = '\n' ∨ isContent c = true) ∧ longestRun '\'' cs ≤ 2

/-- The style that is chosen for a text is one that fits it. Double quotes fit every
text. -/
theorem QuoteStyle.choose_fits (cs : List Char) : (QuoteStyle.choose cs).Fits cs := by
  have hplain : cs.any isHiddenControl = false → ∀ c ∈ cs, c = '\n' ∨ isContent c = true := by
    intro h c hc
    exact content_of_not_hidden (by simpa using List.any_eq_false.mp h c hc)
  unfold QuoteStyle.choose
  simp only [Bool.and_eq_true, Bool.not_eq_true', decide_eq_true_eq]
  split_ifs with hbasic hliteral hmulti hsingle hlines
  · trivial
  · obtain ⟨⟨hcontrols, hrun⟩, hlines⟩ := hliteral
    intro c hc
    have hquote : c ≠ '\'' := by
      rintro rfl
      exact not_mem_of_longestRun_eq_zero hrun hc
    rcases hplain hcontrols c hc with rfl | hcontent
    · rw [← List.elem_eq_contains, List.elem_eq_true_of_mem hc] at hlines
      cases hlines
    · exact ⟨hcontent, hquote⟩
  · trivial
  · exact ⟨hplain hsingle.1, hsingle.2⟩
  · trivial
  · trivial

theorem readQuotation_basic {text : List Char} (h : ∀ r, text ≠ '"' :: '"' :: r) :
    readQuotation ('"' :: text) = readBasic text := by
  rw [readQuotation]
  exact h

theorem readQuotation_literal {text : List Char} (h : ∀ r, text ≠ '\'' :: '\'' :: r) :
    readQuotation ('\'' :: text) = readLiteral text := by
  rw [readQuotation]
  exact h

/-- What is written for a text does not begin with two quotes by itself. -/
theorem escapeBasic_ne_quotes {cs rest : List Char} (hrest : Unquoted '"' rest) (r : List Char) :
    escapeBasic cs ++ '"' :: rest ≠ '"' :: '"' :: r := by
  cases cs with
  | nil =>
      rintro heq
      cases (List.cons.inj heq).2
      exact hrest rfl
  | cons c cs =>
      rw [escapeBasic_cons, escapeBasic_singleton]
      split_ifs with hquote hline
      · simp
      · simp
      · obtain ⟨d, r', hhead, -, hd⟩ := escaped?_getD_head hquote
        simp [hhead, hd]

/-- A text in a style that it fits is read back from between its quotes, whatever
follows, as long as that is no further quote. -/
theorem readQuotation_write {style : QuoteStyle} {cs rest : List Char} (hfits : style.Fits cs)
    (hdouble : Unquoted '"' rest) (hsingle : Unquoted '\'' rest) :
    readQuotation (style.write cs ++ rest) = some (cs, rest) := by
  cases style with
  | basic =>
      have hwritten : QuoteStyle.basic.write cs ++ rest =
          '"' :: (escapeBasic cs ++ '"' :: rest) := by
        simp [QuoteStyle.write]
      rw [hwritten, readQuotation_basic (escapeBasic_ne_quotes hdouble)]
      exact readBasic_escapeBasic cs rest
  | literal =>
      have hwritten : QuoteStyle.literal.write cs ++ rest = '\'' :: (cs ++ '\'' :: rest) := by
        simp [QuoteStyle.write]
      have hquotes : ∀ r, cs ++ '\'' :: rest ≠ '\'' :: '\'' :: r := by
        intro r heq
        cases cs with
        | nil =>
            cases (List.cons.inj heq).2
            exact hsingle rfl
        | cons c cs =>
            exact (hfits c List.mem_cons_self).2 (List.cons.inj heq).1
      rw [hwritten, readQuotation_literal hquotes]
      exact readLiteral_append hfits rest
  | multiBasic =>
      have hwritten : QuoteStyle.multiBasic.write cs ++ rest =
          '"' :: '"' :: '"' :: (leadingNewline cs ++
            (escapeMulti 0 cs ++ '"' :: '"' :: '"' :: rest)) := by
        simp [QuoteStyle.write]
      rw [hwritten]
      change readMultiBasic false (dropNewline _) = _
      rw [dropNewline_leadingNewline fun hlines => newline?_escapeMulti hlines _]
      exact readMultiBasic_escapeMulti cs (Nat.zero_le 2) hdouble
  | multiLiteral =>
      have hwritten : QuoteStyle.multiLiteral.write cs ++ rest =
          '\'' :: '\'' :: '\'' :: (leadingNewline cs ++
            (cs ++ '\'' :: '\'' :: '\'' :: rest)) := by
        simp [QuoteStyle.write]
      rw [hwritten]
      change readMultiLiteral (dropNewline _) = _
      rw [dropNewline_leadingNewline fun hlines => newline?_literal hfits.1 hlines _]
      exact readMultiLiteral_append hfits.1 (Nat.zero_le 2) hfits.2 hsingle

/-- A text is read back as it was, in whatever style it was written. -/
theorem readQuotation_writeText (s : String) {rest : List Char}
    (hdouble : Unquoted '"' rest) (hsingle : Unquoted '\'' rest) :
    readQuotation (writeText s ++ rest) = some (s.toList, rest) :=
  readQuotation_write (QuoteStyle.choose_fits s.toList) hdouble hsingle

end MvvmSymbols.Document
