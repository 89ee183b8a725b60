/-!
# Lines -- cutting a text at its line feeds and joining it again

A text of `n` line feeds has `n + 1` lines, possibly empty. Main statement: joining the lines of a
text gives the text back.
-/

namespace ContractScan.Text

/-- Adds a character to the first of several lines. -/
def onFirst (c : Char) : List (List Char) → List (List Char)
  | [] => [[c]]
  | l :: ls => (c :: l) :: ls

/-- The lines of a text, cut at every line feed. -/
def lines : List Char → List (List Char)
  | [] => [[]]
  | c :: cs => if c = '\n' then [] :: lines cs else onFirst c (lines cs)

/-- Texts put one after the other with a line feed between two neighbours. -/
def joinLines : List (List Char) → List Char
  | [] => []
  | [l] => l
  | l :: m :: ls => l ++ '\n' :: joinLines (m :: ls)

/-- A text has at least one line. -/
theorem lines_ne_nil (s : List Char) : lines s ≠ [] := by
  cases s with
  | nil => simp [lines]
  | cons c cs =>
    by_cases h : c = '\n'
    · simp [lines, h]
    · cases hl : lines cs <;> simp [lines, h, hl, onFirst]

/-- Joining the lines of a text gives the text back. -/
theorem joinLines_lines (s : List Char) : joinLines (lines s) = s := by
  induction s with
  | nil => rfl
  | cons c cs ih =>
    by_cases h : c = '\n'
    · cases hl : lines cs with
      | nil => exact absurd hl (lines_ne_nil cs)
      | cons l ls => simp [lines, h, hl, joinLines]; rw [← hl, ih]
    · cases hl : lines cs with
      | nil => exact absurd hl (lines_ne_nil cs)
      | cons l ls =>
        rw [hl] at ih
        cases ls with
        | nil => simp_all [lines, onFirst, joinLines]
        | cons m ms => simp_all [lines, onFirst, joinLines]

end ContractScan.Text
