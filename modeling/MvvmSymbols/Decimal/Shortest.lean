import MvvmSymbols.Decimal.Binary64

/-!
The shortest decimal that reads back to a value. Every real number nearer to a
value than to its neighbours reads back to it, and so do the two midpoints when
the value's significand is even. Of the decimals in that interval with the
fewest digits the one nearest to the value is taken, the upper one of two that
are equally near.
-/

namespace MvvmSymbols.Decimal

/-- The decimal `digits · 10^exponent`. -/
structure Numeral where
  digits : Nat
  exponent : Int
deriving DecidableEq

def compareScaled (a : Nat) (e : Int) (n : Nat) (q : Int) : Ordering :=
  compare (a * Nat.pow 10 e.toNat * Nat.pow 2 (-q).toNat)
    (n * Nat.pow 2 q.toNat * Nat.pow 10 (-e).toNat)

/-- Whether a decimal reads back to `m · 2^q`. Below a power of two the
neighbour is half as far away, save at the lower end of the range. -/
def readsBack (m : Nat) (q : Int) (d : Numeral) : Bool :=
  let below := if m = Nat.pow 2 52 ∧ q ≠ -1074 then 4 * m - 1 else 4 * m - 2
  let above := 4 * m + 2
  let low := compareScaled d.digits d.exponent below (q - 2)
  let high := compareScaled d.digits d.exponent above (q - 2)
  if m % 2 = 0 then low ≠ .lt && high ≠ .gt else low = .gt && high = .lt

/-- The first of `steps` exponents from `k` on whose power of ten exceeds `m · 2^q`. -/
def placesFrom (m : Nat) (q : Int) : Nat → Int → Int
  | 0, k => k
  | steps + 1, k => if compareScaled 1 k m q = .gt then k else placesFrom m q steps (k + 1)

/-- The number of decimal places that `m · 2^q` has before the point: the least
`k` with `m · 2^q < 10^k`, sought from an estimate that is a little too low. -/
def places (m : Nat) (q : Int) : Int :=
  placesFrom m q 5 (((m.log2 : Int) + q) * 30102 / 100000 - 1)

/-- The neighbours of `m · 2^q` on the grid of multiples of `10^e`, of which the
better one that reads back is taken. -/
def onGrid? (m : Nat) (q e : Int) : Option Numeral :=
  let (num, den) := scaled 2 m 1 q
  let (num, den) := scaled 10 num den (-e)
  let lower : Numeral := ⟨num / den, e⟩
  let upper : Numeral := ⟨num / den + 1, e⟩
  match readsBack m q lower, readsBack m q upper with
  | true, true => some (if 2 * (num % den) < den then lower else upper)
  | true, false => some lower
  | false, true => some upper
  | false, false => none

/-- The first hit on the grids for 1, 2, … digits. Seventeen digits suffice. -/
def shortest (m : Nat) (q : Int) : Numeral :=
  if m = 0 then ⟨0, 0⟩
  else
    let k := places m q
    let found := (List.range 17).findSome? fun (n : Nat) => onGrid? m q (k - 1 - (n : Int))
    found.getD ⟨(scaled 2 m 1 q).1, 0⟩

/-- A decimal in positional form, with a digit on each side of the point. -/
def Numeral.positional (d : Numeral) : String :=
  if 0 ≤ d.exponent then toString (d.digits * Nat.pow 10 d.exponent.toNat) ++ ".0"
  else
    let n := (-d.exponent).toNat
    let whole := toString (d.digits / Nat.pow 10 n)
    let part := toString (d.digits % Nat.pow 10 n)
    let padded := List.replicate (n - part.length) '0' ++ part.toList
    let trimmed := (padded.reverse.dropWhile (· = '0')).reverse
    whole ++ "." ++ (if trimmed.isEmpty then "0" else String.ofList trimmed)

/-- A value as reports show it: shortest digits, never an exponent, always a
point in a finite value. -/
def Binary64.render : Binary64 → String
  | .nan => "NaN"
  | .infinite negative => if negative then "-inf" else "inf"
  | .finite negative m q => (if negative then "-" else "") ++ (shortest m q).positional

end MvvmSymbols.Decimal
