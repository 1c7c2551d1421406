/-!
Why a configuration cannot be loaded, written or accepted.
-/

namespace MvvmSymbols

inductive ReadFailure where
  | notFound
  | notADirectory
  | isADirectory
  | invalidUtf8
  /-- Any other cause, in the words of the system. -/
  | other (text : String)
deriving DecidableEq

def ReadFailure.message : ReadFailure → String
  | .notFound => "No such file or directory (os error 2)"
  | .notADirectory => "Not a directory (os error 20)"
  | .isADirectory => "Is a directory (os error 21)"
  | .invalidUtf8 => "stream did not contain valid UTF-8"
  | .other text => text

inductive TextFault where
  /-- The text is no document at all. -/
  | notWellFormed
  /-- The text is a document, but a part of it does not fit. -/
  | misfit (text : String)
deriving DecidableEq

def TextFault.message : TextFault → String
  | .notWellFormed => "the text is not well formed"
  | .misfit text => text

inductive ConfigError where
  | parse (fault : TextFault)
  | serialize (text : String)
  | validation (field text : String)
  | unreadable (cause : ReadFailure)
deriving DecidableEq

namespace ConfigError

def message : ConfigError → String
  | .parse fault => "Config parse error: " ++ fault.message
  | .serialize text => "Config serialize error: " ++ text
  | .validation field text => "Config validation failed for '" ++ field ++ "': " ++ text
  | .unreadable cause => "IO error: " ++ cause.message

def code : ConfigError → String
  | .parse _ => "CONFIG_PARSE_ERROR"
  | .serialize _ => "CONFIG_SERIALIZE_ERROR"
  | .validation .. => "CONFIG_VALIDATION_FAILED"
  | .unreadable _ => "CONFIG_IO_ERROR"

end ConfigError

/-- How an operation on a configuration can end without a result: with an error
for its caller, or in a crash that no caller sees. -/
inductive Halt where
  | error (e : ConfigError)
  | crash
deriving DecidableEq

end MvvmSymbols
