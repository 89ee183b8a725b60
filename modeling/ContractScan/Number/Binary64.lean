import ContractScan.Number.Power

/-!
# Binary64 -- the floating-point numbers of data, as exact values

A finite number is a sign, a whole mantissa and a power of two, so that every question about it is one
about integers: whether it is zero, whether it is whole, what is left when its fraction is cut off, and
how it compares with an integer. `ofDecimal` rounds a decimal to the nearest such number, a tie to the
even mantissa; what is too large becomes infinite.
-/

namespace ContractScan.Number

/-- A binary floating-point number of 64 bits. -/
inductive Binary64 where
  /-- Not a number. -/
  | nan
  /-- An infinity; `true` stands for the negative one. -/
  | infinite (negative : Bool)
  /-- `mantissa * 2 ^ exponent` with a sign. -/
  | finite (negative : Bool) (mantissa : Nat) (exponent : Int)
  deriving DecidableEq, Repr

/-- `num / den` rounded to a whole number, a half to the even neighbour. -/
def roundDiv (num den : Nat) : Nat :=
  let q := num / den
  let r := num % den
  if den < 2 * r || (2 * r == den && q % 2 == 1) then q + 1 else q

/-- The least exponent of a finite number. -/
def minExponent : Int := -1074

/-- The greatest exponent of a finite number with a mantissa of 53 bits. -/
def maxExponent : Int := 971

/-- `num / den`, scaled down by a power of two and given as numerator and denominator. -/
def scaleDown (num den : Nat) (e : Int) : Nat × Nat :=
  if 0 ≤ e then (num, den * twoTo e.toNat) else (num * twoTo (-e).toNat, den)

/-- The exponent for which `num / den` has a mantissa of 53 bits, or the least exponent. -/
def exponentFor (num den : Nat) : Int :=
  let e : Int := (Nat.log2 num : Int) - (Nat.log2 den : Int) - 53
  let (n, d) := scaleDown num den e
  max (if twoTo 53 ≤ n / d then e + 1 else e) minExponent

/-- The number nearest to `num / den`. -/
def Binary64.ofRatio (negative : Bool) (num den : Nat) : Binary64 :=
  if num = 0 then .finite negative 0 minExponent
  else
    let e := exponentFor num den
    let (n, d) := scaleDown num den e
    let m := roundDiv n d
    let (m, e) := if m = twoTo 53 then (twoTo 52, e + 1) else (m, e)
    if maxExponent < e then .infinite negative else .finite negative m e

/-- The number nearest to `digits * 10 ^ power`. -/
def Binary64.ofDecimal (negative : Bool) (digits : Nat) (power : Int) : Binary64 :=
  let size : Int := (Nat.log2 digits : Int) * 30103 / 100000 + power
  if digits = 0 then .finite negative 0 minExponent
  else if 310 < size then .infinite negative
  else if size < -330 then .finite negative 0 minExponent
  else if 0 ≤ power then ofRatio negative (digits * tenTo power.toNat) 1
  else ofRatio negative digits (tenTo (-power).toNat)

/-- The number nearest to an integer. -/
def Binary64.ofInt (n : Int) : Binary64 := ofDecimal (n < 0) n.natAbs 0

namespace Binary64

/-- Whether the number is zero, of either sign. -/
def isZero : Binary64 → Bool
  | .finite _ m _ => m == 0
  | _ => false

/-- Whether the number has a finite value. -/
def isFinite : Binary64 → Bool
  | .finite .. => true
  | _ => false

/-- The whole part of the absolute value. -/
def wholePart (m : Nat) (e : Int) : Nat :=
  if 0 ≤ e then m * twoTo e.toNat else m / twoTo (-e).toNat

/-- The integer that is left when the fraction is cut off; only a finite number has one. -/
def truncate? : Binary64 → Option Int
  | .finite s m e => some (if s then -(wholePart m e : Int) else wholePart m e)
  | _ => none

/-- Whether the number is finite and has no fraction. -/
def isWhole : Binary64 → Bool
  | .finite _ m e => decide (0 ≤ e) || m % twoTo (-e).toNat == 0
  | _ => false

/-- Whether the number is at least the integer. -/
def atLeast (x : Binary64) (k : Int) : Bool :=
  match x with
  | .nan => false
  | .infinite s => !s
  | .finite s m e =>
    let v : Int := if s then -(m : Int) else m
    if 0 ≤ e then decide (k ≤ v * twoTo e.toNat) else decide (k * twoTo (-e).toNat ≤ v)

end Binary64

example : Binary64.ofDecimal false 1 (-1) = .finite false 7205759403792794 (-56) := by decide +kernel
example : (Binary64.ofDecimal false 1 25).truncate? = some 10000000000000000905969664 := by decide +kernel
example : Binary64.ofDecimal false 5 (-324) = .finite false 1 (-1074) := by decide +kernel

end ContractScan.Number
