import GraphWire.Decimal.Shortest

/-! # Laying out shortest digits as text

A `Layout` holds the decisions of one float format: for which positions of the decimal point
the digits are written positionally and for which with an exponent, whether a whole number keeps
a `.0`, how the exponent is signed, which of two equally near shortest decimals is written, and
the words for zero and the non-finite values. Five
layouts are used: `Layout.json` for numbers in JSON reports; `Layout.output` for numbers in the
JSON the command line prints; `Layout.plain` for the plain display of a value, which never uses
an exponent; `Layout.pointed`, the plain display with a point always shown, for floats named by
TOML decoding errors; and `Layout.unexpected` for floats named by JSON decoding errors. -/

namespace GraphWire.Decimal

/-- The decisions of one float format. Digits are written positionally when the point position
`p` (the value is `0.d₁d₂… · 10^p`) satisfies `low < p ≤ high`, with no bound for `none`. -/
structure Layout where
  low : Option Int
  high : Option Int
  pointZero : Bool
  plusExponent : Bool
  zero : String
  nan : String
  infinity : String
  tie : Tie

/-- JSON numbers: positional from `0.00001` up to sixteen integer digits, a whole number keeps
`.0`, a positive exponent carries a plus sign (`1e+16`, `1.5e-7`), and of two equally near
shortest decimals the one with an even last digit is written. -/
def Layout.json : Layout :=
  ⟨some (-5), some 16, true, true, "0.0", "null", "null", .even⟩

/-- JSON numbers as the command line prints them: as `Layout.json`, with no sign on a positive
exponent (`1e16`, `1.5e-7`). -/
def Layout.output : Layout := { Layout.json with plusExponent := false }

/-- Plain display: always positional, a whole number without `.0` (`1`, `0.0000001`,
`1000000000000000000000`), and of two equally near shortest decimals the one farther from zero
(`2147483648.00390625` is `2147483648.0039063`). -/
def Layout.plain : Layout :=
  ⟨none, none, false, false, "0", "NaN", "inf", .away⟩

/-- Plain display that keeps a point: always positional, a whole number with `.0` (`1.0`,
`0.0000001`, `1000000000000000000000.0`). TOML decoding errors show floats this way. -/
def Layout.pointed : Layout :=
  ⟨none, none, true, false, "0.0", "NaN", "inf", .away⟩

/-- How JSON decoding errors name a float: as JSON numbers are written, and `NaN` and `inf` for
the values JSON has no number for. -/
def Layout.unexpected : Layout :=
  { Layout.json with nan := "NaN", infinity := "inf" }

/-- `n` zeros. -/
def zeros (n : Nat) : String := String.ofList (List.replicate n '0')

/-- Digits as characters. -/
def digitText (ds : List Nat) : String :=
  String.ofList (ds.map (fun d => Char.ofNat ('0'.toNat + d)))

/-- The digits written positionally. -/
def Layout.positional (l : Layout) (d : Digits) : String :=
  let n := d.digits.length
  if d.point ≤ 0 then
    "0." ++ zeros (-d.point).toNat ++ digitText d.digits
  else if d.point < n then
    digitText (d.digits.take d.point.toNat) ++ "." ++ digitText (d.digits.drop d.point.toNat)
  else
    digitText d.digits ++ zeros (d.point.toNat - n) ++ (if l.pointZero then ".0" else "")

/-- The digits written with an exponent: one digit before the point. -/
def Layout.scientific (l : Layout) (d : Digits) : String :=
  let e := d.point - 1
  let mantissa := match d.digits with
    | [] => "0"
    | [x] => digitText [x]
    | x :: rest => digitText [x] ++ "." ++ digitText rest
  let sign := if e < 0 then "-" else if l.plusExponent then "+" else ""
  mantissa ++ "e" ++ sign ++ toString e.natAbs

/-- Whether the layout writes a point position positionally. -/
def Layout.isPositional (l : Layout) (p : Int) : Bool :=
  (match l.low with | some lo => decide (lo < p) | none => true) &&
  (match l.high with | some hi => decide (p ≤ hi) | none => true)

/-- The text of a float in the layout. -/
def Layout.render (l : Layout) (f : Float) : String :=
  match Binary64.classify f with
  | .nan => l.nan
  | .infinite neg => (if neg then "-" else "") ++ l.infinity
  | .finite p =>
    let sign := if p.negative then "-" else ""
    if p.significand == 0 then sign ++ l.zero
    else
      let d := shortest l.tie p
      sign ++ (if l.isPositional d.point then l.positional d else l.scientific d)

end GraphWire.Decimal
