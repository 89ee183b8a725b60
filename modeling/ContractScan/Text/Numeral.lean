import ContractScan.Text.Blank
import ContractScan.Text.Digit

/-!
# Numerals -- reading an integer from text

A numeral is an optional sign and digits, with single underscores allowed between digits and blanks
allowed around it. The blanks at the ends are the plain ones and those beyond ASCII. In base ten a
numeral of more than `maxDecimalDigits` digits is refused, so that reading stays cheap; base sixteen
has no such bound and allows a leading `0x`.
-/

namespace ContractScan.Text

/-- The most digits that a numeral in base ten may have. -/
def maxDecimalDigits : Nat := 4300

/-- The blanks that may stand around a numeral. -/
def isNumeralBlank (c : Char) : Bool := isPlainBlank c || isWideBlank c

/-- A digit of the base. -/
def digitIn? (base : Nat) (c : Char) : Option Nat :=
  (digitValue? c).filter (· < base)

/-- Reads the digits after a first one; a single underscore may stand before each. -/
def readDigits (base : Nat) : List Char → List Nat → Option (List Nat)
  | [], acc => some acc.reverse
  | '_' :: c :: cs, acc => (digitIn? base c).bind fun d => readDigits base cs (d :: acc)
  | c :: cs, acc => (digitIn? base c).bind fun d => readDigits base cs (d :: acc)

/-- The digits of a numeral without sign: at least one, the first without an underscore. -/
def digits? (base : Nat) : List Char → Option (List Nat)
  | [] => none
  | c :: cs => (digitIn? base c).bind fun d => readDigits base cs [d]

/-- The number that digits denote, most significant first. -/
def ofDigits (base : Nat) (ds : List Nat) : Nat := ds.foldl (fun n d => n * base + d) 0

/-- Takes the sign off a numeral; `true` stands for minus. -/
def takeSign : List Char → Bool × List Char
  | '-' :: cs => (true, cs)
  | '+' :: cs => (false, cs)
  | cs => (false, cs)

/-- The number with the given sign. -/
def signed (minus : Bool) (n : Nat) : Int := if minus then -(n : Int) else n

/-- The integer that a text denotes in base ten. -/
def readDecimal (s : List Char) : Option Int :=
  let (minus, body) := takeSign (trimBy isNumeralBlank s)
  (digits? 10 body).bind fun ds =>
    if ds.length ≤ maxDecimalDigits then some (signed minus (ofDigits 10 ds)) else none

/-- Takes off a leading `0x`, in either case, and one underscore after it. -/
def takeHexMark : List Char → List Char
  | '0' :: 'x' :: '_' :: cs => cs
  | '0' :: 'X' :: '_' :: cs => cs
  | '0' :: 'x' :: cs => cs
  | '0' :: 'X' :: cs => cs
  | cs => cs

/-- The integer that a text denotes in base sixteen. -/
def readHex (s : List Char) : Option Int :=
  let (minus, body) := takeSign (trimBy isNumeralBlank s)
  (digits? 16 (takeHexMark body)).map fun ds => signed minus (ofDigits 16 ds)

example : readDecimal "1_000".toList = some 1000 := by decide +kernel
example : readDecimal "_1".toList = none := by decide +kernel
example : readHex " -0X_ff\n".toList = some (-255) := by decide +kernel
example : readHex "0x".toList = none := by decide +kernel

end ContractScan.Text
