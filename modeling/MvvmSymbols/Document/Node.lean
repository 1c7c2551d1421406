import MvvmSymbols.Decimal.Binary64

/-!
Documents: the tree of tables, lists and scalars that a configuration text
stands for, with the place of each part in the text.
-/

namespace MvvmSymbols.Document

/-- A stretch of text, by the number of characters that follow its two ends. -/
structure Span where
  start : Nat
  stop : Nat
deriving DecidableEq

structure Key where
  name : String
  span : Span
deriving DecidableEq

inductive Scalar where
  | text (value : String)
  | integer (value : Int)
  | real (value : Decimal.Binary64)
  | boolean (value : Bool)
  /-- A date, a time, or both. -/
  | moment
deriving DecidableEq

/-- How a table came to be, which decides what may be added to it. -/
inductive TableForm where
  /-- By a header of its own, or as the document itself. -/
  | header
  /-- As a parent in longer headers only. -/
  | implied
  /-- As a parent in dotted keys only. -/
  | dotted
  /-- Between braces: nothing may be added. -/
  | closed
deriving DecidableEq

inductive Node where
  | scalar (span : Span) (value : Scalar)
  /-- Between brackets. -/
  | list (span : Span) (items : List Node)
  /-- Tables under headers in double brackets. -/
  | series (span : Span) (items : List Node)
  /-- A table that no header or brace marks has no place of its own. -/
  | table (form : TableForm) (span : Option Span) (entries : List (Key × Node))

def Node.span? : Node → Option Span
  | .scalar span _ | .list span _ | .series span _ => some span
  | .table _ span _ => span

end MvvmSymbols.Document
