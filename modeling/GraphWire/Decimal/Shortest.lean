import GraphWire.Decimal.Binary64

/-! # Shortest decimal digits of a binary64 number

For a finite positive binary64 number `v`, the decimal with the fewest significant digits that
reads back as `v`, and of those the nearest to `v`. The reals that read back as `v` form the
interval between the midpoints to its two neighbours, ends included exactly when the significand
of `v` is even. For `n = 1, 2, …, 17` the search tests the two neighbours of `v` on the grid of
`n`-digit decimals; the first grid with a hit wins, since a grid point inside the interval puts
one of the two neighbours inside it too. Everything is exact arithmetic on natural numbers. -/

namespace GraphWire.Decimal

open GraphWire.Binary64

/-- A decimal `0.d₁d₂…dₙ · 10^point` with `d₁ ≠ 0` and `dₙ ≠ 0`: the digits, and the position of
the decimal point counted from the left of the first digit. -/
structure Digits where
  digits : List Nat
  point : Int
deriving Repr, BEq

/-- The decimal digits of a natural number, most significant first. -/
def natDigits (n : Nat) : List Nat :=
  (Nat.toDigits 10 n).map (fun c => c.toNat - '0'.toNat)

/-- `⌊log₁₀ (num / den)⌋` for positive `num` and `den`. -/
def log10Floor (num den : Nat) : Int :=
  let d : Int := ((natDigits num).length : Int) - (natDigits den).length
  let holds : Bool :=
    if d ≥ 0 then den * Nat.pow 10 d.toNat ≤ num else den ≤ num * Nat.pow 10 (-d).toNat
  if holds then d else d - 1

/-- The digits of a positive natural number `c` standing for `c · 10^k`, trailing zeros removed. -/
def Digits.ofScaled (c : Nat) (k : Int) : Digits :=
  let ds := natDigits c
  let kept := (ds.reverse.dropWhile (· == 0)).reverse
  ⟨kept, k + ds.length⟩

/-- The bounds of the interval of reals that read back as `m · 2^q`, all scaled by a common
factor: the value, the lower and the upper end, and the denominator of the scale. -/
structure Interval where
  value : Nat
  lower : Nat
  upper : Nat
  den : Nat
  closed : Bool

/-- The interval around `m · 2^q`, scaled by `4 · 2^(-q)` when `q < 2`. -/
def Interval.ofParts (p : Parts) : Interval :=
  let m := p.significand
  let lowerGap := if p.lowerCloser then 1 else 2
  let up : Nat := if p.exponent ≥ 2 then Nat.pow 2 (p.exponent - 2).toNat else 1
  let den : Nat := if p.exponent ≥ 2 then 1 else Nat.pow 2 (2 - p.exponent).toNat
  ⟨4 * m * up, (4 * m - lowerGap) * up, (4 * m + 2) * up, den, m % 2 == 0⟩

/-- Whether `c · 10^k` lies in the interval. -/
def Interval.contains (iv : Interval) (k : Int) (c : Nat) : Bool :=
  let p : Nat := if k < 0 then Nat.pow 10 (-k).toNat else 1
  let q : Nat := if k < 0 then iv.den else iv.den * Nat.pow 10 k.toNat
  let x := c * q
  if iv.closed then iv.lower * p ≤ x && x ≤ iv.upper * p
  else iv.lower * p < x && x < iv.upper * p

/-- Distance of `c · 10^k` from the value, in the interval's scale times `10^(-k)` when `k < 0`. -/
def Interval.distance (iv : Interval) (k : Int) (c : Nat) : Nat :=
  let p : Nat := if k < 0 then Nat.pow 10 (-k).toNat else 1
  let q : Nat := if k < 0 then iv.den else iv.den * Nat.pow 10 k.toNat
  let x := c * q
  let v := iv.value * p
  if x ≥ v then x - v else v - x

/-- The two neighbours of the value on the grid of spacing `10^k`, the lower first. -/
def Interval.neighbours (iv : Interval) (k : Int) : Nat × Nat :=
  let p : Nat := if k < 0 then Nat.pow 10 (-k).toNat else 1
  let q : Nat := if k < 0 then iv.den else iv.den * Nat.pow 10 k.toNat
  let lo := iv.value * p / q
  (lo, lo + 1)

/-- Which of two grid points at the same distance from the value is taken: the one with an even
last digit, or the one farther from zero. -/
inductive Tie where
  | even
  | away
deriving DecidableEq, Repr

/-- The grid point of spacing `10^k` inside the interval that is nearest to the value; of two at
the same distance, the one the tie rule takes. -/
def Interval.pick (tie : Tie) (iv : Interval) (k : Int) : Option Nat :=
  let (lo, hi) := iv.neighbours k
  match iv.contains k lo, iv.contains k hi with
  | true, true =>
    let dl := iv.distance k lo
    let dh := iv.distance k hi
    if dl < dh then some lo else if dh < dl then some hi
    else match tie with
      | .even => if lo % 2 == 0 then some lo else some hi
      | .away => some hi
  | true, false => some lo
  | false, true => some hi
  | false, false => none

/-- Search the grids of `n, n + 1, …, 17` digits, for a value whose leading digit stands at
`10^e`. -/
def Interval.search (tie : Tie) (iv : Interval) (e : Int) : Nat → Nat → Option Digits
  | 0, _ => none
  | fuel + 1, n =>
    let k := e - n + 1
    match iv.pick tie k with
    | some c => some (Digits.ofScaled c k)
    | none => Interval.search tie iv e fuel (n + 1)

/-- The shortest digits that read back as a finite positive binary64 number; the decimal
nearest to it among those, a tie settled by the tie rule. -/
def shortest (tie : Tie) (p : Parts) : Digits :=
  let iv := Interval.ofParts p
  let e := log10Floor iv.value iv.den
  match iv.search tie e 17 1 with
  | some d => d
  | none => Digits.ofScaled p.significand 0

end GraphWire.Decimal
