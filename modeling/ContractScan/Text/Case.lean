import ContractScan.Text.CaseTable

/-!
# Case -- lower and upper case for every script

One character may become several. The lower case of a sigma depends on its place: at the end of a
word, where a letter stands before it and none after it, marks passed over, it takes its final form.
All other characters are mapped on their own.
-/

namespace ContractScan.Text

/-- The first character that is not passed over is a letter with case. -/
def facesCased (cs : List Char) : Bool :=
  match cs.dropWhile fun c => inRanges passedOverRanges c.toNat with
  | [] => false
  | c :: _ => inRanges casedRanges c.toNat

/-- The lower case of a character, whatever stands beside it. -/
def lowerChar (c : Char) : List Char :=
  if c.toNat < 128 then [c.toLower]
  else if c = 'İ' then ['i', '\u0307']
  else
    match lowerRuns.find? (·.covers c.toNat) with
    | some r => [Char.ofNat (r.apply c.toNat)]
    | none => [c]

/-- The lower case of a character between the characters before it, nearest first, and those after. -/
def lowerAt (before : List Char) (c : Char) (after : List Char) : List Char :=
  if c = 'Σ' then [if facesCased before && !facesCased after then 'ς' else 'σ'] else lowerChar c

/-- The lower case of a text that follows the given characters, nearest first. -/
def lowerAfter : List Char → List Char → List Char
  | _, [] => []
  | before, c :: cs => lowerAt before c cs ++ lowerAfter (c :: before) cs

/-- The lower case of a text. -/
def lower (s : List Char) : List Char := lowerAfter [] s

/-- The upper case of a character. -/
def upperChar (c : Char) : List Char :=
  if c.toNat < 128 then [c.toUpper]
  else
    match upperWords.find? (·.1 == c.toNat) with
    | some w => w.2.map Char.ofNat
    | none =>
      match upperRuns.find? (·.covers c.toNat) with
      | some r => [Char.ofNat (r.apply c.toNat)]
      | none => [c]

/-- The upper case of a text. -/
def upper (s : List Char) : List Char := s.flatMap upperChar

/-- The empty text has an empty lower case. -/
theorem lower_nil : lower [] = [] := rfl

/-- Upper case goes character by character. -/
theorem upper_append (s t : List Char) : upper (s ++ t) = upper s ++ upper t := by
  simp [upper]

end ContractScan.Text
