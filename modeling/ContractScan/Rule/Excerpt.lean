import ContractScan.Rule.Basic
import ContractScan.Text.Lines

/-!
# Excerpts -- the numbered lines around a match

An excerpt is made line by line: the first line that the pattern matches on its own, with up to `c`
lines before and after it, each with its number. A match that crosses a line break gives none. A
negative `c` narrows the window; its end is then counted from the end of the text, as `window` says.
-/

namespace ContractScan

open ContractScan.Text

/-- The index of the first line that the pattern matches. -/
def Pattern.firstLine? (p : Pattern) (ls : List (List Char)) : Option Nat :=
  ls.findIdx? (p.occursIn ·)

/-- The first and the past-the-end index of the lines shown around line `i` of `n`. -/
def window (c : Int) (n i : Nat) : Nat × Nat :=
  let start := max 0 ((i : Int) - c)
  let stop := min (n : Int) (i + c + 1)
  -- a negative end is counted from the end of the text
  (start.toNat, if stop < 0 then (n + stop).toNat else stop.toNat)

/-- A line after its number. -/
def numberedLine (number : Nat) (l : List Char) : List Char :=
  Nat.toDigits 10 number ++ ' ' :: '|' :: ' ' :: l

/-- Lines after their numbers, the first of which is `number`. -/
def numbered (number : Nat) : List (List Char) → List (List Char)
  | [] => []
  | l :: ls => numberedLine number l :: numbered (number + 1) ls

/-- The lines from `w.1` to before `w.2`, after their numbers. -/
def excerptOf (ls : List (List Char)) (w : Nat × Nat) : List Char :=
  joinLines (numbered (w.1 + 1) ((ls.drop w.1).take (w.2 - w.1)))

/-- The excerpt of a text around the first line that the pattern matches. -/
def Pattern.excerpt? (p : Pattern) (c : Int) (content : List Char) : Option String :=
  let ls := lines content
  (p.firstLine? ls).map fun i => String.ofList (excerptOf ls (window c ls.length i))

/-- The excerpt around the first line that a written pattern matches. -/
def excerpt (content : List Char) (pattern : String) (c : Int) (flags : Nat) :
    Except Fault (Option String) := do
  let p ← Pattern.compile pattern flags
  return p.excerpt? c content

end ContractScan
