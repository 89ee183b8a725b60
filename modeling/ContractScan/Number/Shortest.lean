import ContractScan.Number.Binary64

/-!
# Shortest decimals -- the fewest digits that read back

A finite number stands for an interval of reals: all that round to it. `shortest` takes decimal grids
from coarse to fine and stops at the first that has a point in the interval; of two points the nearer
is taken. `DecimalLayout` says how the digits are written down.
-/

namespace ContractScan.Number

/-- A point of a decimal grid, `digits * 10 ^ power`. -/
structure GridPoint where
  /-- The digits, as a whole number. -/
  digits : Nat
  /-- The power of ten. -/
  power : Int
  deriving DecidableEq, Repr

/-- The reals that round to a number, as whole multiples of `1 / unit`. -/
structure Interval where
  /-- The lower end. -/
  low : Nat
  /-- The number itself. -/
  mid : Nat
  /-- The upper end. -/
  high : Nat
  /-- The common denominator. -/
  unit : Nat
  /-- Whether the ends belong to the interval. -/
  closed : Bool

/-- The interval of `m * 2 ^ e`; below a power of two the neighbours are half as far. -/
def Interval.around (m : Nat) (e : Int) : Interval :=
  let f := twoTo (e - 2).toNat
  -- the smallest mantissa of its exponent has a nearer neighbour below
  let below := if m = twoTo 52 ∧ e ≠ minExponent then 1 else 2
  ⟨(4 * m - below) * f, 4 * m * f, (4 * m + 2) * f, twoTo (2 - e).toNat, m % 2 == 0⟩

/-- The interval with every number multiplied by `10 ^ (-power)`. -/
def Interval.onGrid (i : Interval) (power : Int) : Interval :=
  let up := tenTo (-power).toNat
  ⟨i.low * up, i.mid * up, i.high * up, i.unit * tenTo power.toNat, i.closed⟩

/-- Whether the whole number `c` lies in the interval. -/
def Interval.holds (i : Interval) (c : Nat) : Bool :=
  let v := c * i.unit
  if i.closed then i.low ≤ v && v ≤ i.high else i.low < v && v < i.high

/-- The whole number in the interval that is nearest to its middle, if a neighbour of it is one. -/
def Interval.nearest? (i : Interval) : Option Nat :=
  let q := i.mid / i.unit
  match i.holds q, i.holds (q + 1) with
  | true, true =>
    let left := i.mid - q * i.unit
    let right := (q + 1) * i.unit - i.mid
    if left < right || (left == right && q % 2 == 0) then some q else some (q + 1)
  | true, false => some q
  | false, true => some (q + 1)
  | false, false => none

/-- The least power of ten above the number, from a guess that may be too low. -/
def Interval.magnitude (i : Interval) : Nat → Int → Int
  | 0, k => k
  | tries + 1, k =>
    let g := i.onGrid k
    if g.mid < g.unit then k else i.magnitude tries (k + 1)

/-- Tries grids of ever more digits below `10 ^ k`; the grid of 17 digits always has a point. -/
def Interval.search (i : Interval) (k : Int) : Nat → Int → GridPoint
  | 0, n => ⟨(i.onGrid (k - n)).mid / (i.onGrid (k - n)).unit, k - n⟩
  | more + 1, n =>
    match (i.onGrid (k - n)).nearest? with
    | some d => ⟨d, k - n⟩
    | none => i.search k more (n + 1)

/-- The decimal with the fewest digits that reads back as `m * 2 ^ e`. -/
def shortest (m : Nat) (e : Int) : GridPoint :=
  let i := Interval.around m e
  let guess := ((Nat.log2 m : Int) + e) * 30103 / 100000 - 1
  i.search (i.magnitude 5 guess) 17 1

/-- How digits are written: positionally for some magnitudes, else with an exponent. -/
structure DecimalLayout where
  /-- Numbers below `10 ^ leastPlain` have an exponent. -/
  leastPlain : Int
  /-- Numbers from `10 ^ mostPlain` on have an exponent. -/
  mostPlain : Int
  /-- What a whole number ends with. -/
  wholeTail : String
  /-- The mark before the exponent. -/
  mark : String
  /-- The sign of an exponent that is not negative. -/
  plus : String
  /-- The least number of digits of an exponent. -/
  exponentWidth : Nat
  /-- The text of what is not a number. -/
  nanText : String
  /-- The text of the positive infinity. -/
  infinityText : String

/-- Digits padded on the left with zeros. -/
def padLeft (width : Nat) (cs : List Char) : List Char :=
  List.replicate (width - cs.length) '0' ++ cs

/-- The text of `point` digits before the decimal point and the rest after it. -/
def plainDigits (tail : String) (ds : List Char) (point : Int) : String :=
  if point ≤ 0 then
    "0." ++ String.ofList (List.replicate (-point).toNat '0' ++ ds)
  else if ds.length ≤ point.toNat then
    String.ofList (ds ++ List.replicate (point.toNat - ds.length) '0') ++ tail
  else
    String.ofList (ds.take point.toNat) ++ "." ++ String.ofList (ds.drop point.toNat)

/-- The text of digits with an exponent, one digit before the point. -/
def exponentDigits (l : DecimalLayout) (ds : List Char) (exponent : Int) : String :=
  let head := String.ofList (ds.take 1)
  let rest := ds.drop 1
  let sign := if exponent < 0 then "-" else l.plus
  head ++ (if rest.isEmpty then "" else "." ++ String.ofList rest) ++ l.mark ++ sign ++
    String.ofList (padLeft l.exponentWidth (Nat.toDigits 10 exponent.natAbs))

/-- The digits of a positive whole number without the zeros at its end. -/
def significant (n : Nat) : List Char :=
  ((Nat.toDigits 10 n).reverse.dropWhile (· == '0')).reverse

/-- The text of a number. -/
def DecimalLayout.write (l : DecimalLayout) : Binary64 → String
  | .nan => l.nanText
  | .infinite s => (if s then "-" else "") ++ l.infinityText
  | .finite s m e =>
    let sign := if s then "-" else ""
    if m = 0 then sign ++ "0" ++ l.wholeTail
    else
      let g := shortest m e
      let point := g.power + (Nat.toDigits 10 g.digits).length
      let ds := significant g.digits
      if l.leastPlain < point ∧ point ≤ l.mostPlain then sign ++ plainDigits l.wholeTail ds point
      else sign ++ exponentDigits l ds (point - 1)

/-- Plain from `0.0001` to below `10 ^ 16`; a whole number keeps `.0`; an exponent has a sign and at
least two digits. -/
def dataLayout : DecimalLayout := ⟨-4, 16, ".0", "e", "+", 2, "NaN", "Infinity"⟩

example : dataLayout.write (.ofDecimal false 1 (-1)) = "0.1" := by decide +kernel
example : dataLayout.write (.ofDecimal true 100 (-1)) = "-10.0" := by decide +kernel
example : dataLayout.write (.ofDecimal false 5 (-324)) = "5e-324" := by decide +kernel
example : dataLayout.write (.ofDecimal false 12345 18) = "1.2345e+22" := by decide +kernel
example : dataLayout.write (.ofDecimal false 1 (-4)) = "0.0001" := by decide +kernel
example : dataLayout.write (.ofDecimal false 1 16) = "1e+16" := by decide +kernel

end ContractScan.Number
