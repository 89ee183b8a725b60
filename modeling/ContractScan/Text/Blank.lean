/-!
# Blanks -- the characters that separate words, and trimming them

`isBlank` is the full set of white characters: the ASCII controls TAB to CR and FS to US, the space,
and the blanks beyond ASCII. `trim` removes them at both ends, and `trimmed` does so for a string.
-/

namespace ContractScan.Text

/-- The blanks beyond ASCII. -/
def isWideBlank (c : Char) : Bool :=
  let n := c.toNat
  n == 0x85 || n == 0xA0 || n == 0x1680 || (0x2000 ≤ n && n ≤ 0x200A) || n == 0x2028 || n == 0x2029 ||
    n == 0x202F || n == 0x205F || n == 0x3000

/-- TAB, LF, VT, FF, CR and the space. -/
def isPlainBlank (c : Char) : Bool :=
  let n := c.toNat
  (9 ≤ n && n ≤ 13) || n == 32

/-- Every blank: the plain ones, the four information separators and the blanks beyond ASCII. -/
def isBlank (c : Char) : Bool :=
  isPlainBlank c || (0x1C ≤ c.toNat && c.toNat ≤ 0x1F) || isWideBlank c

/-- Removes from both ends the characters that `p` accepts. -/
def trimBy (p : Char → Bool) (s : List Char) : List Char :=
  ((s.dropWhile p).reverse.dropWhile p).reverse

/-- Removes the blanks at both ends. -/
def trim (s : List Char) : List Char := trimBy isBlank s

/-- A line break is a blank. -/
theorem isBlank_newline : isBlank '\n' = true := by decide

/-- The string without the blanks at its ends. -/
def trimmed (s : String) : String := String.ofList (trim s.toList)

end ContractScan.Text
