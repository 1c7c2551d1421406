import MvvmSymbols.Decimal.Binary64

/-!
Trees of plain data: the values that a structured document or a schema speaks
about, with no places and no comments. A record keeps its fields in order, and
a field name may occur once only.
-/

namespace MvvmSymbols

inductive Tree where
  | null
  | boolean (value : Bool)
  | integer (value : Int)
  | real (value : Decimal.Binary64)
  | text (value : String)
  | list (items : List Tree)
  | record (fields : List (String × Tree))
deriving Inhabited

def Tree.field? (name : String) : Tree → Option Tree
  | .record fields => (fields.find? (·.1 = name)).map (·.2)
  | _ => none

end MvvmSymbols
