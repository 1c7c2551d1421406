import MvvmSymbols.Config.Decode
import MvvmSymbols.Config.Encode
import MvvmSymbols.Config.Validate
import MvvmSymbols.Reported

/-!
Loading configurations: from a document, and from the content of a file.
-/

namespace MvvmSymbols

/-- A part without a place, which only the document's own table could be, is
reported without an excerpt. -/
def TextFault.ofComplaint (text : String) (c : Complaint) : TextFault :=
  match c.span with
  | some span => .misfit (Document.excerpt text span c.misfit.message)
  | none => .misfit (c.misfit.message ++ "\n")

namespace Config

/-- The configuration that a text stands for; what it does not set has its default. -/
def ofText (text : String) : Except ConfigError Config :=
  match Document.read text with
  | none => .error (.parse .notWellFormed)
  | some table => (decode table).mapError (.parse <| .ofComplaint text ·)

/-- Reads, decodes and checks the content of a file, given its bytes or why it has none. -/
def ofContent (content : Except ReadFailure ByteArray) (patterns : Text.Pattern.Reader) :
    Except Halt Config := do
  let bytes ← content.mapError (.error <| .unreadable ·)
  let text ←
    match String.fromUTF8? bytes with
    | some text => .ok text
    | none => .error (.error (.unreadable .invalidUtf8))
  let config ← (ofText text).mapError Halt.error
  config.validate patterns
  return config

/-- Loads a configuration file. Success is reported, with the path of the file. -/
def load (content : Except ReadFailure ByteArray)
    (patterns : Text.Pattern.Reader := Text.Pattern.reader) (path : Option String := none) :
    Reported (Except Halt Config) := do
  let config := ofContent content patterns
  if config.toBool then report (.configLoaded path)
  return config

theorem value_load (content : Except ReadFailure ByteArray) (patterns : Text.Pattern.Reader)
    (path : Option String) : (load content patterns path).value = ofContent content patterns := by
  unfold load
  extract_lets config answer
  split <;> rfl

end Config

end MvvmSymbols
