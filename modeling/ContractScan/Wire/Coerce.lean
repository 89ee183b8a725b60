import ContractScan.Text.Numeral
import ContractScan.Json.Reader
import ContractScan.Wire.Issue

/-!
# Coercions -- taking a value for what is expected

A value is taken for a text only if it is one. An integer may also be a truth value, a number without
fraction, or a text that writes one of these; a truth value may also be 0, 1 or one of a few words; a
number may be a text that writes one. Everything else is a problem.
-/

namespace ContractScan.Wire

open ContractScan.Number ContractScan.Text

/-- The text that a value is. -/
def asText : Json → Except Problem String
  | .str s => .ok s
  | _ => .error .notText

/-- Digits with single underscores between them, read as ASCII digits only. -/
def plainDigits? (cs : List Char) : Option (List Nat) :=
  if cs.all fun c => Json.isDigit c || c = '_' then digits? 10 cs else none

/-- The text without a point and zeros at its end. -/
def dropZeroFraction (cs : List Char) : List Char :=
  let whole := cs.takeWhile (· != '.')
  let rest := cs.dropWhile (· != '.')
  if (rest.drop 1).all (· == '0') then whole else cs

/-- The integer that a text writes. -/
def integerOfText (s : List Char) : Except Problem Int :=
  let (minus, body) := takeSign (dropZeroFraction (trimBy isNumeralBlank s))
  match plainDigits? body with
  | some ds => if maxDecimalDigits < ds.length then .error .integerSize
    else .ok (signed minus (ofDigits 10 ds))
  | none => .error .integerText

/-- The bound below which a number without fraction is taken for an integer. -/
def integerBound : Int := twoTo 63

/-- The integer that a number is. -/
def integerOfFloat (x : Binary64) : Except Problem Int :=
  match x.truncate? with
  | none => .error .notFinite
  | some n =>
    if x.isWhole then
      if -integerBound < n ∧ n < integerBound then .ok n else .error .integerSize
    else .error .fractional

/-- The integer that a value is taken for. -/
def asInteger : Json → Except Problem Int
  | .int n => .ok n
  | .bool b => .ok b.toNat
  | .str s => integerOfText s.toList
  | .float x => integerOfFloat x
  | _ => .error .notInteger

/-- The words for a truth value. -/
def boolWords : List (String × Bool) :=
  [("0", false), ("f", false), ("n", false), ("no", false), ("off", false), ("false", false),
   ("1", true), ("t", true), ("y", true), ("on", true), ("yes", true), ("true", true)]

/-- The truth value that a whole number is taken for; one of more than 64 bits is taken for none. -/
def boolOfInteger (n : Int) : Except Problem Bool :=
  if n = 0 then .ok false
  else if n = 1 then .ok true
  else if -integerBound ≤ n ∧ n < integerBound then .error .boolText
  else .error .notBool

/-- The truth value that a value is taken for. -/
def asBool : Json → Except Problem Bool
  | .bool b => .ok b
  | .int n => boolOfInteger n
  | .str s =>
    match boolWords.find? (·.1 == String.ofList (s.toList.map Char.toLower)) with
    | some w => .ok w.2
    | none => .error .boolText
  | .float x =>
    match integerOfFloat x with
    | .ok n => boolOfInteger n
    | .error _ => .error .notBool
  | _ => .error .notBool

/-- A number with at least one digit before or after its point, and an exponent if it has one. -/
def decimalOfText (minus : Bool) (cs : List Char) : Option Binary64 :=
  let whole := cs.takeWhile Json.isDigit
  let rest := cs.dropWhile Json.isDigit
  let (fraction, rest) :=
    match rest with
    | '.' :: r => (r.takeWhile Json.isDigit, r.dropWhile Json.isDigit)
    | r => ([], r)
  if whole.isEmpty && fraction.isEmpty then none
  else
    let digits := Json.natOfDigits (whole ++ fraction)
    match rest with
    | [] => some (.ofDecimal minus digits (-fraction.length))
    | r =>
      match Json.exponentPart r with
      | (some e, []) => some (.ofDecimal minus digits (e - fraction.length))
      | _ => none

/-- Whether a text has underscores only between other characters, each of them alone. -/
def hasLoneUnderscores (cs : List Char) : Bool :=
  cs.head? != some '_' && cs.getLast? != some '_' && !(cs.zip (cs.drop 1)).contains ('_', '_')

/-- The number that a text writes. -/
def numberOfText (s : List Char) : Except Problem Binary64 :=
  let cs := trimBy isNumeralBlank s
  let (minus, body) := takeSign (if hasLoneUnderscores cs then cs.filter (· != '_') else cs)
  let word := String.ofList (body.map Char.toLower)
  if word = "inf" ∨ word = "infinity" then .ok (.infinite minus)
  else if word = "nan" then .ok .nan
  else
    match decimalOfText minus body with
    | some x => .ok x
    | none => .error .numberText

/-- The number that an integer is, unless it is too large for one. -/
def numberOfInteger (n : Int) : Except Problem Binary64 :=
  let x := Binary64.ofInt n
  if x.isFinite then .ok x else .error .notNumber

/-- The number that a value is taken for. -/
def asNumber : Json → Except Problem Binary64
  | .float x => .ok x
  | .int n => numberOfInteger n
  | .bool b => .ok (.ofInt b.toNat)
  | .str s => numberOfText s.toList
  | _ => .error .notNumber

/-- A list of texts. -/
def asTexts : Json → Checked (List String)
  | .arr xs => Checked.each (fun v => .ofExcept (asText v)) 0 xs
  | _ => .invalid [⟨[], .notList⟩]

/-- A text, or null. -/
def asOptionalText : Json → Except Problem (Option String)
  | .null => .ok none
  | v => (asText v).map some

end ContractScan.Wire
