/-!
# Patterns -- classes of characters, edges, and what a pattern spans

A pattern describes stretches of a text. Its leaves are classes of characters and edges, places
between two characters; it is built by sequence, choice and repetition. `Spans p before word after` is
the meaning: `p` matches exactly `word` where it stands after the character `before` (none at the start
of the text) and before the characters `after`. Both neighbours matter because of the edges alone.
-/

namespace ContractScan

/-- A set of characters: those in one of the ranges of code points, or those in none. -/
structure CharClass where
  ranges : List (Nat × Nat)
  /-- Whether the characters outside of the ranges are meant. -/
  negated : Bool
  deriving DecidableEq, Repr

namespace CharClass

/-- Whether the character belongs to the class. -/
def holds (s : CharClass) (c : Char) : Bool :=
  (s.ranges.any fun r => r.1 ≤ c.toNat && c.toNat ≤ r.2) != s.negated

/-- The class of one character. -/
def single (c : Char) : CharClass := ⟨[(c.toNat, c.toNat)], false⟩

/-- Every character but the line feed. -/
def notNewline : CharClass := ⟨[(10, 10)], true⟩

/-- Every character. -/
def all : CharClass := ⟨[], true⟩

end CharClass

/-- A place between two characters. -/
inductive Edge where
  /-- Before the first character of the text. -/
  | textStart
  /-- Before the first character of a line. -/
  | lineStart
  /-- After the last character of the text, or before a line feed that is the last. -/
  | textEnd
  /-- After the last character of a line. -/
  | lineEnd
  /-- Between a word character and one that is none, or the end of the text. -/
  | wordEdge
  /-- Any place that is no word edge; an empty text has none. -/
  | notWordEdge
  deriving DecidableEq, Repr

/-- An ASCII letter or digit, or the underscore. -/
def isWordChar (c : Char) : Bool := c.isAlphanum || c = '_'

/-- Whether the place between `before` and `after` is an edge of the kind. -/
def Edge.holds (e : Edge) (before : Option Char) (after : List Char) : Bool :=
  match e with
  | .textStart => before.isNone
  | .lineStart => before.all (· == '\n')
  | .textEnd => after.isEmpty || after == ['\n']
  | .lineEnd => after.head?.all (· == '\n')
  | .wordEdge => before.any isWordChar != after.head?.any isWordChar
  | .notWordEdge =>
    (before.isSome || !after.isEmpty) && before.any isWordChar == after.head?.any isWordChar

/-- A pattern. -/
inductive Pattern where
  | empty
  | one (s : CharClass)
  /-- Matches the empty stretch at an edge. -/
  | edge (e : Edge)
  | seq (p q : Pattern)
  | alt (p q : Pattern)
  /-- Matches any number of stretches of `p`, one after the other. -/
  | many (p : Pattern)
  deriving DecidableEq, Repr

namespace Pattern

/-- The character before the place that follows `word`. -/
def lastOf (before : Option Char) : List Char → Option Char
  | [] => before
  | c :: cs => lastOf (some c) cs

/-- `p` matches exactly `word`, standing after `before` and followed by `after`. -/
inductive Spans : Pattern → Option Char → List Char → List Char → Prop where
  | empty (b : Option Char) (a : List Char) : Spans .empty b [] a
  | one {s : CharClass} {c : Char} (b : Option Char) (a : List Char) :
      s.holds c = true → Spans (.one s) b [c] a
  | edge {e : Edge} {b : Option Char} {a : List Char} :
      e.holds b a = true → Spans (.edge e) b [] a
  | seq {p q : Pattern} {b : Option Char} {v w a : List Char} :
      Spans p b v (w ++ a) → Spans q (lastOf b v) w a → Spans (.seq p q) b (v ++ w) a
  | altLeft {p q : Pattern} {b : Option Char} {w a : List Char} :
      Spans p b w a → Spans (.alt p q) b w a
  | altRight {p q : Pattern} {b : Option Char} {w a : List Char} :
      Spans q b w a → Spans (.alt p q) b w a
  | manyNil {p : Pattern} (b : Option Char) (a : List Char) : Spans (.many p) b [] a
  | manyCons {p : Pattern} {b : Option Char} {v w a : List Char} :
      Spans p b v (w ++ a) → Spans (.many p) (lastOf b v) w a → Spans (.many p) b (v ++ w) a

/-- At least one stretch of `p`. -/
def repeated (p : Pattern) : Pattern := .seq p (.many p)

/-- A stretch of `p` or the empty one. -/
def optional (p : Pattern) : Pattern := .alt p .empty

/-- Patterns one after the other. -/
def inSequence : List Pattern → Pattern
  | [] => .empty
  | [p] => p
  | p :: q :: ps => .seq p (inSequence (q :: ps))

/-- A choice between the first pattern and the others. -/
def anyOf (p : Pattern) : List Pattern → Pattern
  | [] => p
  | q :: ps => .alt p (anyOf q ps)

end Pattern

end ContractScan
