import ContractScan.Json.Basic
import ContractScan.Number.Shortest

/-!
# Writing JSON -- ASCII text with one space after each separator

Every character outside printable ASCII is an escape: the short ones for quote, backslash, LF, CR, TAB,
backspace and form feed, else four hexadecimal digits, and two such escapes (a surrogate pair) beyond
the first plane. A name and its value are parted by a colon and a space, neighbours by a comma and a
space. `write` goes over `List Char`, so that reading back can be reasoned about.
-/

namespace ContractScan.Json

open ContractScan.Number

/-- A hexadecimal digit, lower case. -/
def hexDigit (n : Nat) : Char := (Nat.digitChar (n % 16))

/-- A unit of 16 bits as an escape. -/
def writeUnit (n : Nat) : List Char :=
  ['\\', 'u', hexDigit (n / 4096), hexDigit (n / 256), hexDigit (n / 16), hexDigit n]

/-- A character inside a quoted text. -/
def writeChar (c : Char) : List Char :=
  if c = '"' then ['\\', '"']
  else if c = '\\' then ['\\', '\\']
  else if c = '\n' then ['\\', 'n']
  else if c = '\r' then ['\\', 'r']
  else if c = '\t' then ['\\', 't']
  else if c = '\x08' then ['\\', 'b']
  else if c = '\x0c' then ['\\', 'f']
  else if 32 ≤ c.toNat ∧ c.toNat < 127 then [c]
  else if c.toNat < 0x10000 then writeUnit c.toNat
  else
    let n := c.toNat - 0x10000
    writeUnit (0xD800 + n / 0x400) ++ writeUnit (0xDC00 + n % 0x400)

/-- The characters of a text, without the quotes around it. -/
def writeChars (s : List Char) : List Char := s.flatMap writeChar

/-- A text in quotes. -/
def writeText (s : String) : List Char := '"' :: (writeChars s.toList ++ ['"'])

/-- An integer in base ten. -/
def writeInt (n : Int) : List Char :=
  if n < 0 then '-' :: Nat.toDigits 10 n.natAbs else Nat.toDigits 10 n.natAbs

mutual

/-- The text of a value. -/
def write : Json → List Char
  | .null => "null".toList
  | .bool true => "true".toList
  | .bool false => "false".toList
  | .int n => writeInt n
  | .float x => (dataLayout.write x).toList
  | .str s => writeText s
  | .arr xs => '[' :: (writeItems xs ++ [']'])
  | .obj fs => '\x7b' :: (writeFields fs ++ ['\x7d'])

/-- The items of a list, parted by commas. -/
def writeItems : List Json → List Char
  | [] => []
  | v :: rest => write v ++ writeMoreItems rest

/-- The items that follow another one. -/
def writeMoreItems : List Json → List Char
  | [] => []
  | v :: rest => ',' :: ' ' :: (write v ++ writeMoreItems rest)

/-- The fields of an object, parted by commas. -/
def writeFields : List (String × Json) → List Char
  | [] => []
  | (k, v) :: rest => writeText k ++ ':' :: ' ' :: (write v ++ writeMoreFields rest)

/-- The fields that follow another one. -/
def writeMoreFields : List (String × Json) → List Char
  | [] => []
  | (k, v) :: rest =>
    ',' :: ' ' :: (writeText k ++ ':' :: ' ' :: (write v ++ writeMoreFields rest))

end

/-- The text of a value as a string. -/
def render (v : Json) : String := String.ofList (write v)

end ContractScan.Json
