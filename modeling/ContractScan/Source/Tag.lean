import ContractScan.Text.Blank
import ContractScan.Text.Occurs

/-!
# Tags -- the text that follows a marked word in a comment

A tag is a word such as `@title`. Its text begins after the longest run of blanks that still leaves a
character on its line, and goes to the end of that line; blanks at both ends are cut off. The run may
cross line feeds. An occurrence without blanks, or without anything after them, does not count.
-/

namespace ContractScan.Source

open ContractScan.Text

/-- The rest of the line at the start of a text. -/
def restOfLine (cs : List Char) : List Char := cs.takeWhile (· != '\n')

/-- The text after at most `k` blanks, with as many of them as leave a text. -/
def textAfter (rest : List Char) : Nat → Option (List Char)
  | 0 => none
  | k + 1 =>
    let line := restOfLine (rest.drop (k + 1))
    if line.isEmpty then textAfter rest k else some (trim line)

/-- The text of an occurrence, of which `rest` is what follows. -/
def capture (rest : List Char) : Option (List Char) :=
  textAfter rest (rest.takeWhile isBlank).length

/-- The text of the first occurrence of the tag that counts. -/
def tagText? (tag : List Char) : List Char → Option (List Char)
  | [] => none
  | c :: cs =>
    if tag.isPrefixOf (c :: cs) then
      (capture ((c :: cs).drop tag.length)).or (tagText? tag cs)
    else tagText? tag cs

/-- The tag of a title. -/
def titleTag : List Char := "@title".toList

/-- The tag of a notice. -/
def noticeTag : List Char := "@notice".toList

/-- The description that the tags of a source give: a title before a notice. -/
def tagged? (code : List Char) : Option (List Char) :=
  (tagText? titleTag code).or (tagText? noticeTag code)

end ContractScan.Source
