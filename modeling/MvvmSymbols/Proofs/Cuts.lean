import MvvmSymbols.Proofs.Config.Fields
import MvvmSymbols.Proofs.Config.RoundTrip
import MvvmSymbols.Proofs.Filters

/-!
Where filters are cut. A directive is scanned without the white space around it and
cut with it, so the ends of its parts are found in one text and used in another, longer
one. They are in order and within that text, whatever it is. But white space in front
moves all of it, and an end that stood between two characters can come to lie inside
one. This, and nothing else, leaves a filter or a configuration file without an answer.
-/

namespace MvvmSymbols

namespace Text

theorem byteLength_trim_le (cs : List Char) : byteLength (trim cs) ≤ byteLength cs := by
  obtain ⟨trailing, hcs⟩ := exists_eq_trim cs
  have hlength := congrArg byteLength hcs
  rw [byteLength_append, byteLength_append] at hlength
  omega

/-- Where nothing is dropped in front, offsets keep their meaning. -/
theorem isBoundary_of_trim {cs : List Char} {n : Nat} (hfront : cs.takeWhile isBlank = [])
    (h : IsBoundary (trim cs) n) : IsBoundary cs n := by
  obtain ⟨trailing, hcs⟩ := exists_eq_trim cs
  rw [hfront, List.nil_append] at hcs
  obtain ⟨before, hbegins, hlength⟩ := h
  refine ⟨before, ?_, hlength⟩
  rw [hcs]
  exact hbegins.trans (List.prefix_append (trim cs) trailing)

theorem byteLength_eq_length {cs : List Char} (h : ∀ c ∈ cs, c.utf8Size = 1) :
    byteLength cs = cs.length := by
  induction cs with
  | nil => rfl
  | cons c cs ih =>
      obtain ⟨hc, hcs⟩ := List.forall_mem_cons.mp h
      rw [byteLength_cons, hc, ih hcs, List.length_cons, Nat.add_comm]

/-- Among characters of one byte each there is no place that one could not cut at. -/
theorem isBoundary_of_narrow {cs : List Char} {n : Nat} (h : ∀ c ∈ cs, c.utf8Size = 1)
    (hle : n ≤ byteLength cs) : IsBoundary cs n := by
  refine ⟨cs.take n, List.take_prefix n cs, ?_⟩
  rw [byteLength_eq_length fun c hc => h c (List.mem_of_mem_take hc), List.length_take]
  rw [byteLength_eq_length h] at hle
  exact Nat.min_eq_left hle

end Text

namespace Directive

structure Cut where
  start : Nat
  stop : Nat
deriving DecidableEq

namespace Cut

def Fits (cut : Cut) (text : List Char) : Prop :=
  Text.IsBoundary text cut.start ∧ Text.IsBoundary text cut.stop

instance (cut : Cut) (text : List Char) : Decidable (cut.Fits text) :=
  inferInstanceAs (Decidable (_ ∧ _))

/-- The ends stand in order and within the text, between characters of what is
scanned of it. The last part may take the white space behind as well. -/
structure IsWithin (cut : Cut) (text : List Char) : Prop where
  ordered : cut.start ≤ cut.stop
  bounded : cut.stop ≤ Text.byteLength text
  start_scanned : Text.IsBoundary (Text.trim text) cut.start
  stop_scanned : Text.IsBoundary (Text.trim text) cut.stop ∨ cut.stop = Text.byteLength text

end Cut

/-- Where the current part begins. -/
def Place.opened? : Place → Option Nat
  | .levelOrTarget opened | .scope opened | .field opened | .level opened => some opened
  | .start | .afterField | .afterScope => none

/-- The part that ends before the character `c` at offset `i`. -/
def Place.cutBefore? (i : Nat) (c : Char) : Place → Option Cut
  | .levelOrTarget opened => if c = '=' ∨ c = '[' then some ⟨opened, i⟩ else none
  | .scope opened => if c = ']' ∨ c = '\x7b' then some ⟨opened, i⟩ else none
  | .field opened => if c = '\x7d' then some ⟨opened, i⟩ else none
  | .start | .afterField | .afterScope | .level _ => none

def Place.cutAtEnd? (length : Nat) : Place → Option Cut
  | .levelOrTarget opened | .level opened => some ⟨opened, length⟩
  | .start | .scope _ | .field _ | .afterField | .afterScope => none

/-- The parts that are taken from offset `i` on, up to one that cannot be cut. -/
def cutsFrom (patterns : Text.Pattern.Reader) (text : List Char) (d : Directive) (i : Nat) :
    Place → List Char → List Cut
  | place, [] => (place.cutAtEnd? (Text.byteLength text)).toList
  | place, c :: cs =>
    (place.cutBefore? i c).toList ++
      match advance patterns text d i c place with
      | .ok (d, place) => cutsFrom patterns text d (i + c.utf8Size) place cs
      | .error _ => []

def cuts (patterns : Text.Pattern.Reader) (text : List Char) : List Cut :=
  cutsFrom patterns text {} 0 .start (Text.trim text)

/-- A part of the text ends inside a character. -/
def SplitsCharacter (patterns : Text.Pattern.Reader) (text : List Char) : Prop :=
  ∃ cut ∈ cuts patterns text, ¬ cut.Fits text

instance (patterns : Text.Pattern.Reader) (text : List Char) :
    Decidable (SplitsCharacter patterns text) :=
  inferInstanceAs (Decidable (∃ cut ∈ cuts patterns text, ¬ cut.Fits text))

variable {patterns : Text.Pattern.Reader} {text : List Char} {d : Directive} {i : Nat} {c : Char}
  {place : Place}

/-- Of what is done with a part, only taking it can end inside a character. -/
theorem part_bind_eq_cut_iff {α : Type} {start stop : Nat}
    {f : List Char → Except DirectiveFault α} (hf : ∀ cs, f cs ≠ .error .cutCharacter) :
    (part text start stop >>= f) = .error .cutCharacter ↔ Text.slice? text start stop = none := by
  unfold part
  cases Text.slice? text start stop with
  | none => simp [bind, Except.bind]
  | some cs => simpa [bind, Except.bind] using hf cs

/-- What a place after the character `c` at offset `i` has to do with the place before
it: no part is open, or the same part, or one that begins with or behind the
character. -/
inductive Place.Follows (i : Nat) (c : Char) (place : Place) : Place → Prop
  | closed {next : Place} (h : next.opened? = none) : Follows i c place next
  | kept {next : Place} (h : next.opened? = place.opened?) : Follows i c place next
  | opened {next : Place} (h : next.opened? = some i) : Follows i c place next
  | openedBehind {next : Place} (h : next.opened? = some (i + c.utf8Size)) :
      Follows i c place next

/-- The scan goes on behind the character, or finds that the text is not a directive. -/
def GoesOn (i : Nat) (c : Char) (place : Place)
    (result : Except DirectiveFault (Directive × Place)) : Prop :=
  (∃ fault, fault ≠ .cutCharacter ∧ result = .error fault) ∨
    ∃ d next, result = .ok (d, next) ∧ place.Follows i c next

theorem goesOn_of_fault {fault : DirectiveFault} (h : fault ≠ .cutCharacter) :
    GoesOn i c place (.error fault) := Or.inl ⟨fault, h, rfl⟩

theorem goesOn_malformed : GoesOn i c place (.error .malformed) := goesOn_of_fault nofun

theorem goesOn_of_follows {next : Place} (h : place.Follows i c next) :
    GoesOn i c place (.ok (d, next)) := Or.inr ⟨d, next, rfl, h⟩

theorem GoesOn.ne_cut {result : Except DirectiveFault (Directive × Place)}
    (h : GoesOn i c place result) : result ≠ .error .cutCharacter := by
  rcases h with ⟨fault, hfault, rfl⟩ | ⟨d, next, rfl, -⟩
  · exact fun hcut => hfault (Except.error.inj hcut)
  · nofun

theorem GoesOn.follows {next : Place} (h : GoesOn i c place (.ok (d, next))) :
    place.Follows i c next := by
  rcases h with ⟨_, -, h⟩ | ⟨_, _, h, hfollows⟩
  · cases h
  · cases h
    exact hfollows

/-- A field is read from a part that has been taken already. -/
theorem ofText_field_ne_cut (cs : List Char) :
    FieldMatch.ofText patterns cs ≠ .error .cutCharacter := by
  unfold FieldMatch.ofText
  split
  · split <;> nofun
  · nofun

/-- All that a step of the scan can do: it takes the part that ends, if one does, and
goes on. -/
theorem advance_cases (patterns : Text.Pattern.Reader) (text : List Char) (d : Directive)
    (i : Nat) (c : Char) (place : Place) :
    (place.cutBefore? i c = none ∧ GoesOn i c place (advance patterns text d i c place)) ∨
      ∃ cut f, place.cutBefore? i c = some cut ∧
        advance patterns text d i c place = (part text cut.start cut.stop >>= f) ∧
        ∀ cs, GoesOn i c place (f cs) := by
  -- The characters behind which a part begins take one byte.
  have behind {next : Place} (hc : c = '=' ∨ c = '[' ∨ c = '\x7b')
      (h : next.opened? = some (i + 1)) : place.Follows i c next := by
    apply Place.Follows.openedBehind
    rcases hc with rfl | rfl | rfl <;> exact h
  cases place with
  | start =>
      refine Or.inl ⟨rfl, ?_⟩
      rw [advance]
      split_ifs with hscope hname
      · exact goesOn_of_follows (behind (.inr (.inl hscope)) rfl)
      · exact goesOn_of_follows (.opened rfl)
      · exact goesOn_malformed
  | levelOrTarget first =>
      by_cases hends : c = '=' ∨ c = '['
      · refine Or.inr ⟨⟨first, i⟩, _, if_pos hends, if_pos hends, ?_⟩
        intro target
        split_ifs with hlevel
        · exact goesOn_of_follows (behind (.inl hlevel) rfl)
        · exact goesOn_of_follows (behind (.inr (.inl (hends.resolve_left hlevel))) rfl)
      · refine Or.inl ⟨if_neg hends, ?_⟩
        rw [advance, if_neg hends]
        exact goesOn_of_follows (.kept rfl)
  | scope first =>
      by_cases hscope : c = ']'
      · refine Or.inr ⟨⟨first, i⟩, _, if_pos (.inl hscope), if_pos hscope, ?_⟩
        intro scope
        exact goesOn_of_follows (.closed rfl)
      · by_cases hfield : c = '\x7b'
        · refine Or.inr ⟨⟨first, i⟩, _, if_pos (.inr hfield),
            (if_neg hscope).trans (if_pos hfield), ?_⟩
          intro scope
          exact goesOn_of_follows (behind (.inr (.inr hfield)) rfl)
        · refine Or.inl ⟨if_neg (not_or.mpr ⟨hscope, hfield⟩), ?_⟩
          rw [advance, if_neg hscope, if_neg hfield]
          exact goesOn_of_follows (.kept rfl)
  | field first =>
      by_cases hends : c = '\x7d'
      · refine Or.inr ⟨⟨first, i⟩, _, if_pos hends, if_pos hends, ?_⟩
        intro field
        split_ifs
        · exact goesOn_malformed
        · cases hfield : FieldMatch.ofText patterns field with
          | error fault =>
              refine goesOn_of_fault ?_
              rintro rfl
              exact ofText_field_ne_cut field hfield
          | ok field => exact goesOn_of_follows (.closed rfl)
      · refine Or.inl ⟨if_neg hends, ?_⟩
        rw [advance, if_neg hends]
        exact goesOn_of_follows (.kept rfl)
  | afterField =>
      refine Or.inl ⟨rfl, ?_⟩
      rw [advance]
      split_ifs
      · exact goesOn_of_follows (.closed rfl)
      · exact goesOn_malformed
  | afterScope =>
      refine Or.inl ⟨rfl, ?_⟩
      rw [advance]
      split_ifs with hlevel
      · exact goesOn_of_follows (behind (.inl hlevel) rfl)
      · exact goesOn_malformed
  | level first => exact Or.inl ⟨rfl, goesOn_of_follows (.kept rfl)⟩

/-- A step fails on a character iff it has a part to cut and cannot cut it. -/
theorem advance_eq_cut_iff (patterns : Text.Pattern.Reader) (text : List Char) (d : Directive)
    (i : Nat) (c : Char) (place : Place) :
    advance patterns text d i c place = .error .cutCharacter ↔
      ∃ cut, place.cutBefore? i c = some cut ∧ Text.slice? text cut.start cut.stop = none := by
  rcases advance_cases patterns text d i c place with ⟨hnone, hgoes⟩ | ⟨cut, f, hcut, hf, hgoes⟩
  · simp [hnone, hgoes.ne_cut]
  · rw [hf, part_bind_eq_cut_iff fun cs => (hgoes cs).ne_cut]
    simp [hcut]

theorem follows_of_advance {d' : Directive} {next : Place}
    (h : advance patterns text d i c place = .ok (d', next)) : place.Follows i c next := by
  rcases advance_cases patterns text d i c place with ⟨-, hgoes⟩ | ⟨cut, f, -, hf, hgoes⟩
  · rw [h] at hgoes
    exact hgoes.follows
  · rw [hf] at h
    obtain ⟨cs, -, hcs⟩ := bind_eq_ok_iff.mp h
    have hgoes := hgoes cs
    rw [hcs] at hgoes
    exact hgoes.follows

/-- At the end of a text the part that is still open is cut, which can fail too. -/
theorem finish_eq_cut_iff :
    finish text d place = .error .cutCharacter ↔
      ∃ cut, place.cutAtEnd? (Text.byteLength text) = some cut ∧
        Text.slice? text cut.start cut.stop = none := by
  cases place with
  | start | scope | field | afterField | afterScope =>
      simp [finish, Place.cutAtEnd?, pure, Except.pure, throw, throwThe, MonadExceptOf.throw]
  | levelOrTarget opened =>
      rw [finish, part_bind_eq_cut_iff]
      · simp [Place.cutAtEnd?]
      · intro rest
        split <;> nofun
  | level opened =>
      rw [finish, part_bind_eq_cut_iff]
      · simp [Place.cutAtEnd?]
      · intro rest
        split_ifs
        · nofun
        · split <;> nofun

/-- The scan of a text fails on a character iff one of its parts cannot be cut. -/
theorem scanFrom_eq_cut_iff {rest : List Char} :
    scanFrom patterns text d i place rest = .error .cutCharacter ↔
      ∃ cut ∈ cutsFrom patterns text d i place rest,
        Text.slice? text cut.start cut.stop = none := by
  induction rest generalizing d i place with
  | nil => simp [scanFrom, cutsFrom, finish_eq_cut_iff]
  | cons c rest ih =>
      have hstep := advance_eq_cut_iff patterns text d i c place
      unfold scanFrom cutsFrom
      cases hnext : advance patterns text d i c place with
      | ok next =>
          rw [hnext] at hstep
          simp only [reduceCtorEq, false_iff, not_exists, not_and] at hstep
          simp only [ih, List.mem_append, Option.mem_toList, or_and_right, exists_or]
          constructor
          · exact Or.inr
          · rintro (⟨cut, hcut, hbad⟩ | hlater)
            · exact absurd hbad (hstep cut hcut)
            · exact hlater
      | error fault =>
          rw [hnext] at hstep
          simpa using hstep

/-- Where a scan of `body` is with `rest` left: past `i` bytes of whole characters, and
the current part has begun between characters as well. -/
structure Place.IsAt (body : List Char) (i : Nat) (rest : List Char) (place : Place) : Prop where
  seen : ∃ before, body = before ++ rest ∧ Text.byteLength before = i
  opened : ∀ opened, place.opened? = some opened → opened ≤ i ∧ Text.IsBoundary body opened

namespace Place.IsAt

variable {body rest : List Char}

theorem start (body : List Char) : Place.IsAt body 0 body .start := ⟨⟨[], rfl, rfl⟩, nofun⟩

theorem isBoundary (h : place.IsAt body i rest) : Text.IsBoundary body i := by
  obtain ⟨before, rfl, rfl⟩ := h.seen
  exact Text.IsBoundary.append before rest

theorem next (h : place.IsAt body i (c :: rest)) {next : Place}
    (hfollows : place.Follows i c next) : next.IsAt body (i + c.utf8Size) rest := by
  have hseen : ∃ before, body = before ++ rest ∧ Text.byteLength before = i + c.utf8Size := by
    obtain ⟨before, rfl, rfl⟩ := h.seen
    exact ⟨before ++ [c], by simp, by simp⟩
  have hbehind : Text.IsBoundary body (i + c.utf8Size) := by
    obtain ⟨before, rfl, hlength⟩ := hseen
    exact hlength ▸ Text.IsBoundary.append before rest
  refine ⟨hseen, ?_⟩
  intro opened hopened
  cases hfollows with
  | closed hclosed =>
      rw [hclosed] at hopened
      cases hopened
  | kept hkept =>
      rw [hkept] at hopened
      obtain ⟨hle, hopened⟩ := h.opened opened hopened
      exact ⟨by omega, hopened⟩
  | opened hhere =>
      obtain rfl := Option.some.inj (hhere.symm.trans hopened)
      exact ⟨by omega, h.isBoundary⟩
  | openedBehind hnext =>
      obtain rfl := Option.some.inj (hnext.symm.trans hopened)
      exact ⟨Nat.le_refl _, hbehind⟩

end Place.IsAt

theorem Place.opened?_of_cutBefore? {cut : Cut} (h : place.cutBefore? i c = some cut) :
    place.opened? = some cut.start ∧ cut.stop = i := by
  cases place with
  | levelOrTarget | scope | field =>
      obtain ⟨-, hcut⟩ := Option.ite_none_right_eq_some.mp h
      cases hcut
      exact ⟨rfl, rfl⟩
  | start | afterField | afterScope | level => cases h

theorem Place.opened?_of_cutAtEnd? {length : Nat} {cut : Cut}
    (h : place.cutAtEnd? length = some cut) :
    place.opened? = some cut.start ∧ cut.stop = length := by
  cases place with
  | levelOrTarget | level =>
      cases h
      exact ⟨rfl, rfl⟩
  | start | scope | field | afterField | afterScope => cases h

/-- The invariant is the place of the scan: an open part begins between two characters
that have been passed. -/
theorem isWithin_of_mem_cutsFrom {rest : List Char} (h : place.IsAt (Text.trim text) i rest)
    {cut : Cut} (hcut : cut ∈ cutsFrom patterns text d i place rest) : cut.IsWithin text := by
  have hshorter := Text.byteLength_trim_le text
  have hi := h.isBoundary.le_byteLength
  induction rest generalizing d i place with
  | nil =>
      obtain ⟨hopened, hstop⟩ := Place.opened?_of_cutAtEnd? (Option.mem_toList.mp hcut)
      obtain ⟨hle, hstart⟩ := h.opened cut.start hopened
      exact ⟨by omega, by omega, hstart, Or.inr hstop⟩
  | cons c rest ih =>
      rw [cutsFrom, List.mem_append] at hcut
      rcases hcut with hbefore | hlater
      · obtain ⟨hopened, rfl⟩ := Place.opened?_of_cutBefore? (Option.mem_toList.mp hbefore)
        obtain ⟨hle, hstart⟩ := h.opened cut.start hopened
        exact ⟨hle, by omega, hstart, Or.inl h.isBoundary⟩
      · cases hnext : advance patterns text d i c place with
        | error fault =>
            rw [hnext] at hlater
            cases hlater
        | ok next =>
            rw [hnext] at hlater
            have hat := h.next (follows_of_advance hnext)
            exact ih hat hlater hat.isBoundary.le_byteLength

theorem isWithin_of_mem_cuts {cut : Cut} (h : cut ∈ cuts patterns text) : cut.IsWithin text :=
  isWithin_of_mem_cutsFrom (.start (Text.trim text)) h

/-- Where nothing blank stands in front, or all characters take one byte, the ends lie
between characters of the text itself. -/
theorem Cut.IsWithin.fits {cut : Cut} (h : cut.IsWithin text)
    (hplain : text.takeWhile Text.isBlank = [] ∨ ∀ c ∈ text, c.utf8Size = 1) : cut.Fits text := by
  rcases hplain with hfront | hnarrow
  · refine ⟨Text.isBoundary_of_trim hfront h.start_scanned, ?_⟩
    rcases h.stop_scanned with hscanned | hend
    · exact Text.isBoundary_of_trim hfront hscanned
    · rw [hend]
      exact Text.IsBoundary.length text
  · have hstart : cut.start ≤ Text.byteLength text := Nat.le_trans h.ordered h.bounded
    exact ⟨Text.isBoundary_of_narrow hnarrow hstart, Text.isBoundary_of_narrow hnarrow h.bounded⟩

/-- A piece is left without an answer iff one of its parts splits a character. -/
theorem ofText_eq_cut_iff :
    ofText patterns text = .error .cutCharacter ↔ SplitsCharacter patterns text := by
  rw [ofText, scanFrom_eq_cut_iff]
  refine exists_congr fun cut => and_congr_right fun hcut => ?_
  have hordered := (isWithin_of_mem_cuts hcut).ordered
  rw [← not_iff_not, ← Ne, Option.ne_none_iff_exists', Text.exists_slice?_iff, not_not]
  exact and_iff_right hordered

-- A value that is not a pattern ends the reading before the level is cut.
example : ofText Text.Pattern.reader "    [\x7b=(aa\u00e9\x7d]=".toList =
    .error (.badValue "error building NFA") := by decide +kernel

example : ofText (fun _ => none) "    [\x7b=(aa\u00e9\x7d]=".toList =
    .error .cutCharacter := by decide +kernel

end Directive

/-- The caller gets a result or an error. -/
def Answered {α : Type} (outcome : Except Halt α) : Prop :=
  (∃ a, outcome = .ok a) ∨ ∃ e, outcome = .error (.error e)

theorem answered_iff {α : Type} {outcome : Except Halt α} :
    Answered outcome ↔ outcome ≠ .error .crash := by
  unfold Answered
  rcases outcome with (e | _) | a <;> simp

/-- The first piece that is not a directive has a part that ends inside a character. -/
def Filter.SplitsCharacter (patterns : Text.Pattern.Reader) (text : String) : Prop :=
  ∃ before piece after, pieces text = before ++ piece :: after ∧
    (∀ p ∈ before, ∃ d, Directive.ofText patterns p = .ok d) ∧
    Directive.SplitsCharacter patterns piece

/-- The filter is looked at, since the fallback is not disabled, and splits a
character. -/
def Config.SplitsCharacter (patterns : Text.Pattern.Reader) (c : Config) : Prop :=
  .none ∉ c.detection.disabledVariants ∧
    ∃ text, c.tracing.filter = some text ∧ Filter.SplitsCharacter patterns text

variable {patterns : Text.Pattern.Reader}

theorem DirectiveFault.halt_eq_crash_iff {fault : DirectiveFault} :
    fault.halt = .crash ↔ fault = .cutCharacter := by
  cases fault <;> simp [DirectiveFault.halt]

theorem TracingConfig.validate_eq_crash_iff {c : TracingConfig} :
    c.validate patterns = .error .crash ↔
      ∃ text, c.filter = some text ∧ Filter.SplitsCharacter patterns text := by
  obtain ⟨filter, withTarget⟩ := c
  cases filter with
  | none => exact ⟨nofun, nofun⟩
  | some text =>
      rw [validate_eq_error_iff]
      constructor
      · rintro ⟨before, piece, after, fault, hsplit, hbefore, hpiece, hhalt⟩
        rw [DirectiveFault.halt_eq_crash_iff.mp hhalt.symm] at hpiece
        exact ⟨text, rfl, before, piece, after, hsplit, hbefore,
          Directive.ofText_eq_cut_iff.mp hpiece⟩
      · rintro ⟨_, hfilter, before, piece, after, hsplit, hbefore, hpiece⟩
        cases hfilter
        exact ⟨before, piece, after, .cutCharacter, hsplit, hbefore,
          Directive.ofText_eq_cut_iff.mpr hpiece, rfl⟩

/-- A configuration is left without an answer on account of its filter, unless it is
refused before the filter is read. -/
theorem Config.validate_eq_crash_iff {c : Config} :
    c.validate patterns = .error .crash ↔ c.SplitsCharacter patterns := by
  rw [SplitsCharacter, ← TracingConfig.validate_eq_crash_iff]
  by_cases hnone : .none ∈ c.detection.disabledVariants
  · have hrejected := c.detection.validate_of_fallback_disabled c.tracing patterns hnone
    constructor
    · intro hcrash
      cases hcrash.symm.trans hrejected
    · rintro ⟨henabled, -⟩
      exact absurd hnone henabled
  · have hdetection : c.detection.validate = .ok () := if_neg fun h => hnone (of_decide_eq_true h)
    rw [validate, hdetection]
    exact (and_iff_right hnone).symm

/-- A file is left without an answer on account of its configuration only. -/
theorem Config.load_eq_crash_iff {content : Except ReadFailure ByteArray}
    {path : Option String} :
    (load content patterns path).value = .error .crash ↔
      ∃ bytes text c, content = .ok bytes ∧ String.fromUTF8? bytes = some text ∧
        ofText text = .ok c ∧ c.SplitsCharacter patterns := by
  simp only [← validate_eq_crash_iff]
  rw [value_load]
  simp only [ofContent, Except.mapError, bind, Except.bind]
  cases content with
  | error cause => simp
  | ok bytes =>
      cases htext : String.fromUTF8? bytes with
      | none => simp [htext]
      | some text =>
          cases hconfig : ofText text with
          | error e => simp [htext, hconfig]
          | ok c =>
              cases hvalid : c.validate patterns <;>
                simp [htext, hconfig, hvalid, pure, Except.pure]

/-- The parts of a piece have their ends in order, within the piece, and between
characters of what is scanned of it. An end inside a character of the piece itself is
what the reading of the piece fails on, and takes both white space in front and a wide
character. A configuration, and a file that holds one, is left without an answer
exactly where the filter is looked at and its first piece that is not a directive has
such an end. -/
theorem answered_unless_character_split (piece : List Char) (c : Config)
    (content : Except ReadFailure ByteArray) (patterns : Text.Pattern.Reader)
    (path : Option String) :
    (∀ cut ∈ Directive.cuts patterns piece, cut.IsWithin piece) ∧
    (Directive.ofText patterns piece = .error .cutCharacter ↔
      Directive.SplitsCharacter patterns piece) ∧
    (Directive.SplitsCharacter patterns piece →
      piece.takeWhile Text.isBlank ≠ [] ∧ ∃ wide ∈ piece, wide.utf8Size ≠ 1) ∧
    (Answered (c.tracing.validate patterns) ↔
      ∀ text, c.tracing.filter = some text → ¬ Filter.SplitsCharacter patterns text) ∧
    (Answered (c.validate patterns) ↔ ¬ c.SplitsCharacter patterns) ∧
    (Answered (Config.load content patterns path).value ↔
      ∀ bytes text loaded, content = .ok bytes → String.fromUTF8? bytes = some text →
        Config.ofText text = .ok loaded → ¬ loaded.SplitsCharacter patterns) := by
  refine ⟨fun _ => Directive.isWithin_of_mem_cuts, Directive.ofText_eq_cut_iff, ?_, ?_, ?_, ?_⟩
  · rintro ⟨cut, hcut, hsplits⟩
    have hwithin := Directive.isWithin_of_mem_cuts hcut
    constructor
    · intro hfront
      exact hsplits (hwithin.fits (Or.inl hfront))
    · by_contra hnarrow
      simp only [not_exists, not_and, not_not] at hnarrow
      exact hsplits (hwithin.fits (Or.inr hnarrow))
  · simp only [answered_iff, Ne, TracingConfig.validate_eq_crash_iff, not_exists, not_and]
  · rw [answered_iff, Ne, Config.validate_eq_crash_iff]
  · simp only [answered_iff, Ne, Config.load_eq_crash_iff, not_exists, not_and]

/-- The blank behind a comma moves a scope that has a wide name, and the name then ends
inside the wide character. The filter is left without an answer, and so is the file. -/
theorem blank_moves_name_into_character :
    Filter.pieces "info, [\u00e9]" = ["info".toList, " [\u00e9]".toList] ∧
      Directive.cuts Text.Pattern.reader " [\u00e9]".toList = [⟨1, 3⟩] ∧
      ¬ Text.IsBoundary " [\u00e9]".toList 3 ∧
      ¬ Answered (TracingConfig.validate { filter := some "info, [\u00e9]" }) ∧
      ¬ Answered (Config.load
        (.ok "[tracing]\nfilter = \"info, [\u00e9]\"\n".toUTF8)).value := by
  have hpieces : Filter.pieces "info, [\u00e9]" = ["info".toList, " [\u00e9]".toList] := by
    decide +kernel
  have hsplits : Filter.SplitsCharacter Text.Pattern.reader "info, [\u00e9]" := by
    refine ⟨["info".toList], " [\u00e9]".toList, [], hpieces, ?_, by decide +kernel⟩
    intro piece hpiece
    rw [List.mem_singleton.mp hpiece]
    exact ⟨{ threshold := .upTo .info }, by decide +kernel⟩
  refine ⟨hpieces, by decide +kernel, by decide +kernel, ?_, ?_⟩
  · rw [answered_iff, not_not, TracingConfig.validate_eq_crash_iff]
    exact ⟨_, rfl, hsplits⟩
  · rw [answered_iff, not_not, Config.load_eq_crash_iff]
    exact ⟨_, _, { tracing := { filter := some "info, [\u00e9]" } }, rfl,
      fromUTF8?_toUTF8 _, by decide +kernel, nofun, _, rfl, hsplits⟩

end MvvmSymbols
