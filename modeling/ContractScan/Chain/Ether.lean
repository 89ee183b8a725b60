import ContractScan.Number.Binary64

/-!
# Ether amounts

A balance is a whole number of the smallest unit, 10^18 of which are one ether. Its text is the number
of ethers, rounded to 28 significant digits with ties to even, written without exponent; it always has a
point, with one zero after it if the number is whole.
-/

namespace ContractScan.Chain

open ContractScan.Number

/-- The decimal places of one ether. -/
def etherPlaces : Nat := 18

/-- The significant digits that are kept. -/
def etherDigits : Nat := 28

/-- The smallest units of one ether. -/
def weiPerEther : Nat := tenTo etherPlaces

/-- The number of decimal digits. -/
def digitCount (n : Nat) : Nat := (Nat.toDigits 10 n).length

/-- `n` rounded to the significant digits that are kept, a tie to the even digit. -/
def roundSignificant (n : Nat) : Nat :=
  let unit := tenTo (digitCount n - etherDigits)
  roundDiv n unit * unit

/-- Decimal digits, filled with zeros on the left to a width. -/
def paddedDigits (width n : Nat) : List Char :=
  let ds := Nat.toDigits 10 n
  List.replicate (width - ds.length) '0' ++ ds

/-- The decimal places of an amount, without the zeros at the end; one zero if nothing is left. -/
def fractionText (n : Nat) : List Char :=
  let ds := ((paddedDigits etherPlaces n).reverse.dropWhile (· == '0')).reverse
  if ds.isEmpty then ['0'] else ds

/-- The text of an amount of smallest units in ethers. -/
def formatEther (wei : Int) : String :=
  let n := roundSignificant wei.natAbs
  let sign := if wei < 0 then ['-'] else []
  String.ofList (sign ++ Nat.toDigits 10 (n / weiPerEther) ++ '.' :: fractionText (n % weiPerEther))

end ContractScan.Chain
