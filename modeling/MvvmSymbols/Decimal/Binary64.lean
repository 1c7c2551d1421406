/-!
Binary floating-point values of 64 bits, and the value nearest to a decimal.
All arithmetic is exact, on natural numbers.
-/

namespace MvvmSymbols.Decimal

/-- A value of the format. A finite one is `±m · 2^q` with `m < 2^53` and
`-1074 ≤ q ≤ 971`, and `m ≥ 2^52` unless `q = -1074`. -/
inductive Binary64 where
  | nan
  | infinite (negative : Bool)
  | finite (negative : Bool) (m : Nat) (q : Int)
deriving DecidableEq

/-- The quotient to the nearest natural number, a half to the even one. -/
def roundDiv (num den : Nat) : Nat :=
  let floor := num / den
  let twiceRest := 2 * (num % den)
  if twiceRest < den then floor
  else if den < twiceRest then floor + 1
  else if floor % 2 = 0 then floor
  else floor + 1

/-- Numerator and denominator of `num / den · base ^ e`. -/
def scaled (base num den : Nat) (e : Int) : Nat × Nat :=
  if 0 ≤ e then (num * Nat.pow base e.toNat, den) else (num, den * Nat.pow base (-e).toNat)

namespace Binary64

/-- The value nearest to `num / den` for positive `num` and `den`: the exponent
is the least for which 53 bits hold the quotient, but never below `-1074`. -/
def ofQuotient (negative : Bool) (num den : Nat) : Binary64 :=
  let guess : Int := (num.log2 : Int) - den.log2 - 53
  let rounded (q : Int) : Nat :=
    let (n, d) := scaled 2 num den (-q)
    roundDiv n d
  let fits (q : Int) : Bool :=
    let (n, d) := scaled 2 num den (-q)
    n / d < Nat.pow 2 53
  let least := if fits guess then guess else guess + 1
  let q := max least (-1074)
  let m := rounded q
  let (m, q) := if m = Nat.pow 2 53 then (Nat.pow 2 52, q + 1) else (m, q)
  if q > 971 then .infinite negative else .finite negative m q

/-- The value nearest to `±digits · 10^e`. Decimals far outside the range of the
format are settled by their size, with no arithmetic on them. -/
def ofDecimal (negative : Bool) (digits : Nat) (e : Int) : Binary64 :=
  let size : Int := (toString digits).length + e
  if digits = 0 ∨ size < -400 then .finite negative 0 (-1074)
  else if size > 400 then .infinite negative
  else
    let (num, den) := scaled 10 digits 1 e
    ofQuotient negative num den

end Binary64

end MvvmSymbols.Decimal
