import MvvmSymbols.Document.Node
import MvvmSymbols.Text.Split

/-!
Showing a place in a document: its line and column, the line itself, and carets
under the part in question, as far as it lies on that line.
-/

namespace MvvmSymbols.Document

def repeated (n : Nat) (c : Char) : String := String.ofList (List.replicate n c)

/-- The report on a stretch of a text, and what is wrong with it. Columns count
characters, carets count bytes; there is at least one caret. -/
def excerpt (text : String) (span : Span) (message : String) : String :=
  let cs := text.toList
  let before := cs.take (cs.length - span.start)
  let part := (cs.drop (cs.length - span.start)).take (span.start - span.stop)
  let lines := Text.split '\n' before
  let row := lines.length
  let column := (lines.getLast?.getD []).length + 1
  let line := (Text.split '\n' cs).getD (row - 1) []
  let carets := max 1 (min (Text.byteLength part) (Text.byteLength line - (column - 1)))
  let margin := repeated ((toString row).length + 1) ' '
  "TOML parse error at line " ++ toString row ++ ", column " ++ toString column ++ "\n" ++
    margin ++ "|\n" ++
    toString row ++ " | " ++ String.ofList line ++ "\n" ++
    margin ++ "|" ++ repeated column ' ' ++ repeated carets '^' ++ "\n" ++
    message ++ "\n"

end MvvmSymbols.Document
