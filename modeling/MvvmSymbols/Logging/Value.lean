import MvvmSymbols.Event
import MvvmSymbols.Text.Pattern.Automaton
import MvvmSymbols.Text.Pattern.Group

/-!
The values that directives ask for. A truth value or a number is met by values
of its own kind only; anything else is a pattern for texts.
-/

namespace MvvmSymbols

def dropSign : List Char → List Char
  | '+' :: rest | '-' :: rest => rest
  | cs => cs

/-- What may follow the digits of a number: nothing, or an exponent. -/
def isExponent : List Char → Bool
  | [] => true
  | c :: rest =>
    let digits := dropSign rest
    c.toLower = 'e' && digits ≠ [] && digits.all Char.isDigit

/-- Whether a text denotes a number: decimal with digits on at least one side
of the point, infinite, or none. -/
def denotesNumber (cs : List Char) : Bool :=
  let cs := dropSign cs
  let whole := cs.takeWhile Char.isDigit
  let (digits, rest) :=
    match cs.dropWhile Char.isDigit with
    | '.' :: rest => (whole ++ rest.takeWhile Char.isDigit, rest.dropWhile Char.isDigit)
    | rest => (whole, rest)
  (digits ≠ [] && isExponent rest) ||
    String.ofList (cs.map Char.toLower) ∈ ["inf", "infinity", "nan"]

def denotesTruthValue (cs : List Char) : Bool := String.ofList cs ∈ ["true", "false"]

/-- What speaks against asking for a text: that it denotes no value, and what the
reader of patterns says of it. -/
def valueComplaint? (patterns : Text.Pattern.Reader) (asked : String) : Option String :=
  if denotesTruthValue asked.toList || denotesNumber asked.toList then none else patterns asked

/-- Whether a text is met by what a directive asks for. What is neither a truth
value, a number nor a pattern is met by nothing. -/
def textMeets (asked text : String) : Bool :=
  if denotesTruthValue asked.toList || denotesNumber asked.toList then false
  else (Text.Pattern.ofText? asked).any (·.fits text.toList)

/-- Whether a field's value is met. The fields of scopes are texts, so counts
are not looked at. -/
def FieldValue.meets (asked : String) : FieldValue → Bool
  | .plain text | .quoted text => textMeets asked text
  | .count _ => false

end MvvmSymbols
