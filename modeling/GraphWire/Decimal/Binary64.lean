/-! # Binary64 numbers as integers and powers of two

A finite binary64 number is `± m · 2^q` with an integer significand `m < 2^53`. This module
reads that form off a float's bits, and builds the float nearest to a natural number, to a
fraction, or to a decimal `d · 10^e`, with ties to the even significand, as binary64 arithmetic
does. The nearest float to a fraction is found exactly: its binary exponent from the lengths
of numerator and denominator, its significand as the rounded quotient. -/

namespace GraphWire.Binary64

/-- A finite binary64 number split into sign, significand and binary exponent: its value is
`(-1)^sign · significand · 2^exponent`. `lowerCloser` says that the next smaller number is half
as far away as the next larger one, which happens at the bottom of each binade. -/
structure Parts where
  negative : Bool
  significand : Nat
  exponent : Int
  lowerCloser : Bool
deriving Repr

/-- The kind of a binary64 number. -/
inductive Kind where
  | finite (p : Parts)
  | infinite (negative : Bool)
  | nan
deriving Repr

/-- Read the sign, exponent and fraction fields of a float. -/
def classify (f : Float) : Kind :=
  let bits : Nat := f.toBits.toNat
  let negative := bits / Nat.pow 2 63 % 2 == 1
  let e : Nat := bits / Nat.pow 2 52 % Nat.pow 2 11
  let frac : Nat := bits % Nat.pow 2 52
  if e == 2047 then
    if frac == 0 then .infinite negative else .nan
  else if e == 0 then
    .finite ⟨negative, frac, -1074, false⟩
  else
    .finite ⟨negative, frac + Nat.pow 2 52, (e : Int) - 1075, frac == 0 && e > 1⟩

/-- Whether a float is negative zero or below zero, read from its sign bit. -/
def signBit (f : Float) : Bool := f.toBits.toNat / Nat.pow 2 63 % 2 == 1

/-- The bits of the binary64 number nearest to `n`, ties to the even significand, for
`n < 2^1024`; larger numbers give the bits of infinity. -/
def nearestBits (n : Nat) : Nat :=
  if n == 0 then 0
  else
    let b := n.log2
    if b ≤ 52 then
      (b + 1023) * Nat.pow 2 52 + (n * Nat.pow 2 (52 - b) - Nat.pow 2 52)
    else
      let shift := b - 52
      let q := n / Nat.pow 2 shift
      let r := n % Nat.pow 2 shift
      let half := Nat.pow 2 (shift - 1)
      let q' := if r > half || (r == half && q % 2 == 1) then q + 1 else q
      let (q'', b') := if q' == Nat.pow 2 53 then (Nat.pow 2 52, b + 1) else (q', b)
      if b' + 1023 > 2046 then 2047 * Nat.pow 2 52
      else (b' + 1023) * Nat.pow 2 52 + (q'' - Nat.pow 2 52)

/-- The binary64 number nearest to a natural number, ties to the even significand. -/
def ofNat (n : Nat) : Float := Float.ofBits (nearestBits n).toUInt64

/-- The binary64 number nearest to an integer, ties to the even significand. -/
def ofInt (i : Int) : Float :=
  if i < 0 then Float.ofBits ((nearestBits i.natAbs) + Nat.pow 2 63).toUInt64 else ofNat i.toNat

/-- The quotient `num / den` rounded to the nearest natural number, the even one on a tie. -/
def roundedQuotient (num den : Nat) : Nat :=
  let q := num / den
  let r := num % den
  if 2 * r > den || (2 * r == den && q % 2 == 1) then q + 1 else q

/-- Whether `num / den ≥ 2^e`. -/
def atLeastPow2 (num den : Nat) (e : Int) : Bool :=
  if e ≥ 0 then num ≥ den * Nat.pow 2 e.toNat else num * Nat.pow 2 (-e).toNat ≥ den

/-- The bits of the binary64 number nearest to `num / den`, ties to the even significand: zero
below half the smallest subnormal number, infinity beyond the largest finite number. -/
def nearestRatioBits (num den : Nat) : Nat :=
  if num == 0 || den == 0 then 0
  else
    let guess : Int := (num.log2 : Int) - den.log2
    -- the leading binary digit of `num / den` stands at `2^top`
    let top := if atLeastPow2 num den guess then guess else guess - 1
    let q : Int := max (top - 52) (-1074)
    let m := if q ≥ 0 then roundedQuotient num (den * Nat.pow 2 q.toNat)
      else roundedQuotient (num * Nat.pow 2 (-q).toNat) den
    let (m, q) := if m == Nat.pow 2 53 then (Nat.pow 2 52, q + 1) else (m, q)
    if m < Nat.pow 2 52 then m
    else if q + 1075 ≥ 2047 then 2047 * Nat.pow 2 52
    else (q + 1075).toNat * Nat.pow 2 52 + (m - Nat.pow 2 52)

/-- The binary64 number nearest to `num / den`. -/
def ofRatio (num den : Nat) : Float := Float.ofBits (nearestRatioBits num den).toUInt64

/-- The binary64 number nearest to the decimal `digits · 10^exponent`. Decimals of more than
309 digits before the point are infinite, and those below `10^-325` are zero, so the exact
arithmetic stays within the range where rounding decides. -/
def ofDecimal (digits : Nat) (exponent : Int) : Float :=
  let size : Int := (Nat.toDigits 10 digits).length
  if digits == 0 || size + exponent < -325 then Float.ofBits 0
  else if size + exponent > 310 then Float.ofBits (2047 * Nat.pow 2 52).toUInt64
  else if exponent ≥ 0 then ofRatio (digits * Nat.pow 10 exponent.toNat) 1
  else ofRatio digits (Nat.pow 10 (-exponent).toNat)

/-- The binary64 number nearest to `10^k`. -/
def pow10 (k : Nat) : Float := ofNat (Nat.pow 10 k)

end GraphWire.Binary64
