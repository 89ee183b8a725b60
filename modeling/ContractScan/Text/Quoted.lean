import ContractScan.Text.Printable

/-!
# Quoted text -- a text shown on one line, in quotes

The quote is the single one, unless the text holds a single quote and no double one. The quote itself,
the backslash, LF, CR and TAB have short escapes; any other character that is not printable is written
as two, four or eight hexadecimal digits, whichever is the least that holds it.
-/

namespace ContractScan.Text

/-- The last `width` hexadecimal digits of a number. -/
def hexDigits : Nat → Nat → List Char
  | 0, _ => []
  | width + 1, n => hexDigits width (n / 16) ++ [Nat.digitChar (n % 16)]

/-- A character inside the given quotes. -/
def quotedChar (quote c : Char) : List Char :=
  if c = quote ∨ c = '\\' then ['\\', c]
  else if c = '\n' then ['\\', 'n']
  else if c = '\r' then ['\\', 'r']
  else if c = '\t' then ['\\', 't']
  else if isPrintable c then [c]
  else if c.toNat < 0x100 then ['\\', 'x'] ++ hexDigits 2 c.toNat
  else if c.toNat < 0x10000 then ['\\', 'u'] ++ hexDigits 4 c.toNat
  else ['\\', 'U'] ++ hexDigits 8 c.toNat

/-- The quote for a text. -/
def quoteFor (s : List Char) : Char := if s.contains '\'' && !s.contains '"' then '"' else '\''

/-- The text in quotes. -/
def quoted (s : String) : String :=
  let q := quoteFor s.toList
  String.ofList (q :: (s.toList.flatMap (quotedChar q) ++ [q]))

example : quoted "it's" = "\"it's\"" := by decide +kernel
example : quoted "a\n\x1f" = "'a\\n\\x1f'" := by decide +kernel

end ContractScan.Text
