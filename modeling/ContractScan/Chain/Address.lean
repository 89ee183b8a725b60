import ContractScan.Text.Blank
import ContractScan.Text.Digit

/-!
# Addresses

An address is `0x` and forty hexadecimal digits, in either case. `isAddress` also takes one line feed
after them; a text that was trimmed before has none. Main statement: on a trimmed text the two tests
agree.
-/

namespace ContractScan.Chain

open ContractScan.Text

/-- An ASCII hexadecimal digit. -/
def isHexDigit (c : Char) : Bool := (asciiDigit? c).any (· < 16)

/-- `0x` and forty hexadecimal digits. -/
def isExactAddress (cs : List Char) : Bool :=
  match cs with
  | '0' :: 'x' :: ds => ds.length == 40 && ds.all isHexDigit
  | _ => false

/-- An address, with or without a line feed after it. -/
def isAddress (cs : List Char) : Bool :=
  isExactAddress cs || (cs.getLast? == some '\n' && isExactAddress cs.dropLast)

/-- A text that does not end with a line feed is an address only if it is exactly one. -/
theorem isAddress_eq {cs : List Char} (h : cs.getLast? ≠ some '\n') :
    isAddress cs = isExactAddress cs := by
  have : (cs.getLast? == some '\n') = false := by simpa using h
  simp [isAddress, this]

end ContractScan.Chain
