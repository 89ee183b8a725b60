import ContractScan.Json.Basic
import ContractScan.Number.Binary64
import ContractScan.Text.Numeral

/-!
# Reading JSON

`read` accepts one value with blanks around it. Beyond the standard it accepts `NaN`, `Infinity` and
`-Infinity`; it refuses control characters inside a text, and a whole number of more than
`maxIntDigits` digits. Of several fields with one name the last value counts, in the place of the first.
A refusal carries the text that was left where the reader stopped, and so its offset.
-/

namespace ContractScan.Json

open ContractScan.Number ContractScan.Text

/-- Why a text is no value. -/
inductive ReadError where
  /-- The grammar is broken where the given rest of the text begins. -/
  | malformed (rest : List Char)
  | numeralTooLong
  deriving DecidableEq, Repr

/-- What a reading step gives: a result and the text after it, or an error. -/
abbrev Step (α : Type) := Except ReadError (α × List Char)

/-- Space, TAB, LF and CR. -/
def isSeparator (c : Char) : Bool := c = ' ' || c = '\t' || c = '\n' || c = '\r'

/-- The text without the separators at its start. -/
def skip (cs : List Char) : List Char := cs.dropWhile isSeparator

/-- The character that a backslash and a letter stand for. -/
def shortEscape? (c : Char) : Option Char :=
  if c = '"' then some '"'
  else if c = '\\' then some '\\'
  else if c = '/' then some '/'
  else if c = 'b' then some '\x08'
  else if c = 'f' then some '\x0c'
  else if c = 'n' then some '\n'
  else if c = 'r' then some '\r'
  else if c = 't' then some '\t'
  else none

/-- The value of a hexadecimal digit. -/
def hexValue? (c : Char) : Option Nat := (asciiDigit? c).filter (· < 16)

/-- The unit of 16 bits that four hexadecimal digits stand for; one more character has to follow. -/
def hexUnit? : List Char → Option Nat
  | a :: b :: c :: d :: _ :: _ =>
    match hexValue? a, hexValue? b, hexValue? c, hexValue? d with
    | some a, some b, some c, some d => some (((a * 16 + b) * 16 + c) * 16 + d)
    | _, _, _, _ => none
  | _ => none

/-- The first half of a surrogate pair. -/
def isHighHalf (n : Nat) : Bool := 0xD800 ≤ n && n ≤ 0xDBFF

/-- The second half of a surrogate pair. -/
def isLowHalf (n : Nat) : Bool := 0xDC00 ≤ n && n ≤ 0xDFFF

/-- The character of a surrogate pair. -/
def joinHalves (high low : Nat) : Char := Char.ofNat (0x10000 + (high - 0xD800) * 0x400 + (low - 0xDC00))

/-- The character of a unit; a lone half of a pair is shown as the replacement character. -/
def charOfUnit (n : Nat) : Char := if isHighHalf n || isLowHalf n then '\ufffd' else Char.ofNat n

/-- Reads the digits after `\u`, and a second escape that completes a pair. Gives the character and how
many characters after the backslash were used. -/
def unitEscape (digits : List Char) : Except ReadError (Char × Nat) :=
  match hexUnit? digits with
  | none => .error (.malformed ('u' :: digits))
  | some n =>
    if isHighHalf n then
      match digits.drop 4 with
      | '\\' :: 'u' :: low =>
        match hexUnit? low with
        | some m => if isLowHalf m then .ok (joinHalves n m, 11) else .ok (charOfUnit n, 5)
        -- an escape that is cut short is left to the reader of the text
        | none => if 5 ≤ low.length then .error (.malformed ('u' :: low)) else .ok (charOfUnit n, 5)
      | _ => .ok (charOfUnit n, 5)
    else .ok (charOfUnit n, 5)

/-- Reads what follows a backslash in the text that began at `opened`. -/
def escape (opened : List Char) : List Char → Except ReadError (Char × Nat)
  | [] => .error (.malformed opened)
  | c :: rest =>
    if c = 'u' then unitEscape rest
    else
      match shortEscape? c with
      | some d => .ok (d, 1)
      | none => .error (.malformed ('\\' :: c :: rest))

/-- Reads a text up to its closing quote. The next `used` characters belong to an escape that was
already read. -/
def readText (opened : List Char) : Nat → List Char → List Char → Step String
  | _, _, [] => .error (.malformed opened)
  -- the rest of an escape
  | used + 1, acc, _ :: cs => readText opened used acc cs
  | 0, acc, c :: cs =>
    if c = '"' then .ok (String.ofList acc.reverse, cs)
    else if c = '\\' then
      match escape opened cs with
      | .ok (d, used) => readText opened used (d :: acc) cs
      | .error e => .error e
    else if c.toNat < 32 then .error (.malformed (c :: cs))
    else readText opened 0 (c :: acc) cs

/-- The most digits of a whole number. -/
def maxIntDigits : Nat := 4300

/-- An ASCII digit. -/
def isDigit (c : Char) : Bool := 48 ≤ c.toNat && c.toNat ≤ 57

/-- The number that ASCII digits denote. -/
def natOfDigits (ds : List Char) : Nat := ds.foldl (fun n d => n * 10 + (d.toNat - 48)) 0

/-- The digits before the point: a zero alone, or any digits that do not begin with zero. -/
def wholeDigits : List Char → Option (List Char × List Char)
  | [] => none
  | c :: cs =>
    if c = '0' then some ([c], cs)
    else if isDigit c then some (c :: cs.takeWhile isDigit, cs.dropWhile isDigit)
    else none

/-- The digits after a point, if there are any, and what follows them. -/
def fractionPart : List Char → Option (List Char) × List Char
  | [] => (none, [])
  | c :: cs =>
    let ds := cs.takeWhile isDigit
    if c = '.' && !ds.isEmpty then (some ds, cs.dropWhile isDigit) else (none, c :: cs)

/-- An exponent, if there is one, and what follows it. -/
def exponentPart : List Char → Option Int × List Char
  | [] => (none, [])
  | c :: cs =>
    let (minus, body) := takeSign cs
    let ds := body.takeWhile isDigit
    if (c = 'e' || c = 'E') && !ds.isEmpty then
      (some (signed minus (natOfDigits ds)), body.dropWhile isDigit)
    else (none, c :: cs)

/-- Whether a minus sign stands first, and what follows it. -/
def minusPart : List Char → Bool × List Char
  | '-' :: cs => (true, cs)
  | cs => (false, cs)

/-- Reads a number. -/
def readNumber (cs : List Char) : Step Json :=
  let (minus, body) := minusPart cs
  match wholeDigits body with
  | none => .error (.malformed cs)
  | some (whole, rest) =>
    let (fraction, rest) := fractionPart rest
    let (exponent, rest) := exponentPart rest
    if fraction.isNone && exponent.isNone then
      if maxIntDigits < whole.length then .error .numeralTooLong
      else .ok (.int (signed minus (natOfDigits whole)), rest)
    else
      let ds := fraction.getD []
      .ok (.float (.ofDecimal minus (natOfDigits (whole ++ ds)) (exponent.getD 0 - ds.length)), rest)

/-- The values that are written as a word. -/
def words : List (List Char × Json) :=
  [("null".toList, .null), ("true".toList, .bool true), ("false".toList, .bool false),
   ("NaN".toList, .float .nan), ("Infinity".toList, .float (.infinite false)),
   ("-Infinity".toList, .float (.infinite true))]

/-- Reads a value that is neither text, list nor object. -/
def readScalar (cs : List Char) : Step Json :=
  match words.find? fun w => w.1.isPrefixOf cs with
  | some w => .ok (w.2, cs.drop w.1.length)
  | none => readNumber cs

mutual

/-- Reads a value. The bound is more than the number of steps that the text allows. -/
def readValue : Nat → List Char → Step Json
  | 0, cs => .error (.malformed cs)
  | n + 1, cs =>
    match cs with
    | [] => .error (.malformed cs)
    | c :: rest =>
      if c = '"' then
        match readText cs 0 [] rest with
        | .ok (s, r) => .ok (.str s, r)
        | .error e => .error e
      else if c = '\x7b' then
        match skip rest with
        | '\x7d' :: r => .ok (.obj [], r)
        | r => readFields n [] r
      else if c = '[' then
        match skip rest with
        | ']' :: r => .ok (.arr [], r)
        | r => readItems n [] r
      else readScalar cs

/-- Reads the items of a list from one of them on; `acc` holds those before it, last first. -/
def readItems : Nat → List Json → List Char → Step Json
  | 0, _, cs => .error (.malformed cs)
  | n + 1, acc, cs =>
    match readValue n cs with
    | .error e => .error e
    | .ok (v, r) =>
      match skip r with
      | ']' :: r => .ok (.arr (v :: acc).reverse, r)
      | ',' :: r => readItems n (v :: acc) (skip r)
      | r => .error (.malformed r)

/-- Reads the fields of an object from one of them on; `acc` holds those before it. -/
def readFields : Nat → Fields → List Char → Step Json
  | 0, _, cs => .error (.malformed cs)
  | n + 1, acc, cs =>
    match cs with
    | '"' :: rest =>
      match readText cs 0 [] rest with
      | .error e => .error e
      | .ok (k, r) =>
        match skip r with
        | ':' :: r =>
          match readValue n (skip r) with
          | .error e => .error e
          | .ok (v, r) =>
            match skip r with
            | '\x7d' :: r => .ok (.obj (Fields.insert acc k v), r)
            | ',' :: r => readFields n (Fields.insert acc k v) (skip r)
            | r => .error (.malformed r)
        | r => .error (.malformed r)
    | _ => .error (.malformed cs)

end

/-- The value that a text denotes. -/
def read (cs : List Char) : Except ReadError Json :=
  let start := skip cs
  match readValue (2 * start.length + 2) start with
  | .error e => .error e
  | .ok (v, r) =>
    match skip r with
    | [] => .ok v
    | rest => .error (.malformed rest)

/-- How many characters of `cs` stand before the given rest of it. -/
def offsetIn (cs rest : List Char) : Nat := cs.length - rest.length

end ContractScan.Json
