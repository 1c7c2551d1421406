import MvvmSymbols.Text.Ranges

/-!
White space: the characters with the property `White_Space`.
-/

namespace MvvmSymbols.Text

def blanks : Ranges :=
  #[(9, 13), (32, 32), (133, 133), (160, 160), (5760, 5760), (8192, 8202), (8232, 8233),
    (8239, 8239), (8287, 8287), (12288, 12288)]

def isBlank (c : Char) : Bool := blanks.contains c

def trim (cs : List Char) : List Char :=
  ((cs.dropWhile isBlank).reverse.dropWhile isBlank).reverse

/-- What is dropped stands in front of what is kept and behind it. -/
theorem exists_eq_trim (cs : List Char) :
    ∃ trailing, cs = cs.takeWhile isBlank ++ (trim cs ++ trailing) := by
  let rest := cs.dropWhile isBlank
  refine ⟨(rest.reverse.takeWhile isBlank).reverse, ?_⟩
  have hrest : trim cs ++ (rest.reverse.takeWhile isBlank).reverse = rest := by
    rw [trim, ← List.reverse_append, List.takeWhile_append_dropWhile, List.reverse_reverse]
  rw [hrest, List.takeWhile_append_dropWhile]

end MvvmSymbols.Text
