import ContractScan.Pattern.Basic
import ContractScan.Text.Blank

/-!
# Reading patterns

The written form of a pattern: characters for themselves, a backslash before a mark of punctuation, the
classes `.` `\s` `\d` `\w` and `[…]` with ranges and negation, the edges `^` `$` `\b`, groups `(…)` and
`(?:…)`, `|`, and the repetitions `*` `+` `?`. `tokens` cuts the text into units, `assemble` builds the pattern over a stack
of open groups. Options are settled here: which edges `^` and `$` are, whether `.` takes a line feed, and
whether a class takes the other case of its ASCII letters.
-/

namespace ContractScan.Pattern

open ContractScan.Text

/-- How a pattern is to be read. -/
structure Options where
  /-- ASCII letters stand for both cases. -/
  ignoreCase : Bool := false
  /-- `^` and `$` also stand at line feeds. -/
  multiLine : Bool := false
  /-- `.` also takes a line feed. -/
  dotAll : Bool := false
  deriving DecidableEq, Repr

/-- Options as bits: 2, 8 and 16. -/
def Options.ofBits (n : Nat) : Options := ⟨n.testBit 1, n.testBit 3, n.testBit 4⟩

/-- The unit of a written pattern. -/
inductive Token where
  | charIn (s : CharClass)
  | edge (e : Edge)
  | openGroup
  | closeGroup
  | bar
  | star
  | plus
  /-- At most once. -/
  | mark
  deriving DecidableEq, Repr

/-- The greatest code point. -/
def lastCodePoint : Nat := 0x10FFFF

/-- The part of a range that lies between `lo` and `hi`, moved up or down. -/
def shifted (lo hi : Nat) (move : Nat → Nat) (r : Nat × Nat) : List (Nat × Nat) :=
  let a := max lo r.1
  let b := min hi r.2
  if a ≤ b then [(move a, move b)] else []

/-- Ranges together with the other case of their ASCII letters. -/
def bothCases (rs : List (Nat × Nat)) : List (Nat × Nat) :=
  rs ++ rs.flatMap (shifted 65 90 (· + 32)) ++ rs.flatMap (shifted 97 122 (· - 32))

/-- A class of the ranges, as the options ask. -/
def classOf (o : Options) (rs : List (Nat × Nat)) (negated : Bool) : CharClass :=
  ⟨if o.ignoreCase then bothCases rs else rs, negated⟩

/-- The blanks. -/
def blankRanges : List (Nat × Nat) :=
  [(0x9, 0xD), (0x1C, 0x20), (0x85, 0x85), (0xA0, 0xA0), (0x1680, 0x1680), (0x2000, 0x200A),
   (0x2028, 0x2029), (0x202F, 0x202F), (0x205F, 0x205F), (0x3000, 0x3000)]

/-- The ASCII digits. -/
def digitRanges : List (Nat × Nat) := [(48, 57)]

/-- The ASCII letters and digits and the underscore. -/
def wordRanges : List (Nat × Nat) := [(48, 57), (65, 90), (95, 95), (97, 122)]

/-- The code points outside of ascending ranges, from `start` on. -/
def complementFrom (start : Nat) : List (Nat × Nat) → List (Nat × Nat)
  | [] => if start ≤ lastCodePoint then [(start, lastCodePoint)] else []
  | r :: rs => (if start < r.1 then [(start, r.1 - 1)] else []) ++ complementFrom (r.2 + 1) rs

/-- The ranges that a letter after a backslash names. -/
def namedRanges? (c : Char) : Option (List (Nat × Nat)) :=
  if c = 's' then some blankRanges
  else if c = 'S' then some (complementFrom 0 blankRanges)
  else if c = 'd' then some digitRanges
  else if c = 'D' then some (complementFrom 0 digitRanges)
  else if c = 'w' then some wordRanges
  else if c = 'W' then some (complementFrom 0 wordRanges)
  else none

/-- The character that a backslash before `c` stands for: a control for some letters, and every
character but an ASCII letter or digit stands for itself. -/
def escaped? (c : Char) : Option Char :=
  if c = 'n' then some '\n'
  else if c = 't' then some '\t'
  else if c = 'r' then some '\r'
  else if c = 'f' then some '\x0c'
  else if c = 'v' then some '\x0b'
  else if c = 'a' then some '\x07'
  else if c.isAlphanum then none
  else some c

/-- The token of a backslash and `c` outside of a bracket. -/
def escapeToken? (o : Options) (c : Char) : Option Token :=
  if c = 'b' then some (.edge .wordEdge)
  else if c = 'B' then some (.edge .notWordEdge)
  else
    match namedRanges? c with
    | some rs => some (.charIn (classOf o rs false))
    | none => (escaped? c).map fun d => .charIn (classOf o [(d.toNat, d.toNat)] false)

/-- The member of a bracket that is not settled yet. -/
inductive Pending where
  | none
  /-- A character, which may begin a range. -/
  | char (n : Nat)
  /-- A named class, which no dash may follow but the last. -/
  | named (rs : List (Nat × Nat))
  | charDash (n : Nat)
  | namedDash (rs : List (Nat × Nat))
  deriving DecidableEq, Repr

/-- The code point of the dash. -/
def dash : Nat := 45

/-- The ranges of a pending member when nothing more belongs to it. -/
def Pending.settle : Pending → List (Nat × Nat)
  | .none => []
  | .char n => [(n, n)]
  | .named rs => rs
  | .charDash n => [(n, n), (dash, dash)]
  | .namedDash rs => rs ++ [(dash, dash)]

/-- Adds a character to the members of a bracket. -/
def Pending.addChar (p : Pending) (n : Nat) : Option (List (Nat × Nat) × Pending) :=
  match p with
  | .charDash lo => if lo ≤ n then some ([(lo, n)], .none) else Option.none
  | .namedDash _ => Option.none
  | _ => some (p.settle, .char n)

/-- Adds a named class to the members of a bracket. -/
def Pending.addNamed (p : Pending) (rs : List (Nat × Nat)) : Option (List (Nat × Nat) × Pending) :=
  match p with
  | .charDash _ => Option.none
  | .namedDash _ => Option.none
  | _ => some (p.settle, .named rs)

/-- Adds an unescaped dash to the members of a bracket. -/
def Pending.addDash (p : Pending) : Option (List (Nat × Nat) × Pending) :=
  match p with
  | .char n => some ([], .charDash n)
  | .named rs => some ([], .namedDash rs)
  | _ => p.addChar dash

/-- Adds a backslash and `c` to the members of a bracket. -/
def Pending.addEscape (p : Pending) (c : Char) : Option (List (Nat × Nat) × Pending) :=
  match namedRanges? c with
  | some rs => p.addNamed rs
  | Option.none => (if c = 'b' then some '\x08' else escaped? c).bind fun d => p.addChar d.toNat

/-- Where the reader of units stands. -/
inductive Place where
  | outside
  | groupOpened
  /-- After the question mark behind the parenthesis that opens a group. -/
  | groupMark
  | escape
  | opened
  /-- Among the members of a bracket; `first` holds before the first of them. -/
  | inside (negated first : Bool) (ranges : List (Nat × Nat)) (pending : Pending)
  | insideEscape (negated : Bool) (ranges : List (Nat × Nat)) (pending : Pending)
  deriving DecidableEq, Repr

/-- The token of a character that stands outside of brackets. -/
def plainToken (o : Options) (c : Char) : Token :=
  if c = '.' then .charIn (if o.dotAll then .all else .notNewline)
  else if c = '^' then .edge (if o.multiLine then .lineStart else .textStart)
  else if c = '$' then .edge (if o.multiLine then .lineEnd else .textEnd)
  else if c = '(' then .openGroup
  else if c = ')' then .closeGroup
  else if c = '|' then .bar
  else if c = '*' then .star
  else if c = '+' then .plus
  else if c = '?' then .mark
  else .charIn (classOf o [(c.toNat, c.toNat)] false)

/-- One character inside of a bracket: the token of the whole bracket if it ends here, and the next
place. -/
def insideStep (o : Options) (negated first : Bool) (rs : List (Nat × Nat)) (p : Pending) (c : Char) :
    Option (Option Token × Place) :=
  if c = ']' ∧ first = false then
    some (some (.charIn (classOf o (rs ++ p.settle) negated)), .outside)
  else if c = '\\' then some (none, .insideEscape negated rs p)
  else
    (if c = '-' then p.addDash else p.addChar c.toNat).map fun (more, q) =>
      (none, .inside negated false (rs ++ more) q)

/-- One character outside of brackets: the token that ends with it, if any, and the next place. -/
def outsideStep (o : Options) (c : Char) : Option Token × Place :=
  if c = '\\' then (none, .escape)
  else if c = '[' then (none, .opened)
  else (some (plainToken o c), if c = '(' then .groupOpened else .outside)

/-- One character: the token that ends with it, if any, and the next place. -/
def tokenStep (o : Options) (place : Place) (c : Char) : Option (Option Token × Place) :=
  match place with
  | .outside => some (outsideStep o c)
  | .groupOpened => if c = '?' then some (none, .groupMark) else some (outsideStep o c)
  -- a group without a number is a group like any other; no other extension is read
  | .groupMark => if c = ':' then some (none, .outside) else none
  | .escape => (escapeToken? o c).map fun t => (some t, .outside)
  | .opened =>
    if c = '^' then some (none, .inside true true [] .none)
    else insideStep o false true [] .none c
  | .inside negated first rs p => insideStep o negated first rs p c
  | .insideEscape negated rs p =>
    (p.addEscape c).map fun (more, q) => (none, .inside negated false (rs ++ more) q)

/-- The units of a written pattern from a place on. -/
def tokensFrom (o : Options) : Place → List Char → Option (List Token)
  | .outside, [] => some []
  | _, [] => none
  | place, c :: cs =>
    (tokenStep o place c).bind fun (t, next) =>
      (tokensFrom o next cs).map fun ts => t.toList ++ ts

/-- What a repetition may follow. -/
inductive Repeatable where
  | no
  | yes
  /-- A repeated item, after which a `?` only asks for the shortest match. -/
  | already
  deriving DecidableEq, Repr

/-- An open group: its finished alternatives and the items of the current one, each last first. -/
structure Group where
  alternatives : List Pattern := []
  items : List Pattern := []
  /-- What a repetition may follow here. -/
  state : Repeatable := .no

/-- The pattern of a group. -/
def Group.close (g : Group) : Pattern :=
  match (inSequence g.items.reverse :: g.alternatives).reverse with
  | [] => .empty
  | p :: ps => anyOf p ps

/-- A group with one more item. -/
def Group.push (g : Group) (p : Pattern) (s : Repeatable) : Group :=
  { g with items := p :: g.items, state := s }

/-- Repeats the last item. -/
def Group.repeatLast (g : Group) (f : Pattern → Pattern) : Option Group :=
  match g.state, g.items with
  | .yes, p :: ps => some { g with items := f p :: ps, state := .already }
  | _, _ => none

/-- Builds the pattern of the units, with the group that is open and those around it. -/
def assemble (g : Group) : List Group → List Token → Option Pattern
  | [], [] => some g.close
  | _ :: _, [] => none
  | outer, .charIn s :: ts => assemble (g.push (.one s) .yes) outer ts
  | outer, .edge e :: ts => assemble (g.push (.edge e) .no) outer ts
  | outer, .openGroup :: ts => assemble {} (g :: outer) ts
  | [], .closeGroup :: _ => none
  | h :: outer, .closeGroup :: ts => assemble (h.push g.close .yes) outer ts
  | outer, .bar :: ts =>
    assemble ⟨inSequence g.items.reverse :: g.alternatives, [], .no⟩ outer ts
  | outer, .star :: ts => (g.repeatLast .many).bind fun h => assemble h outer ts
  | outer, .plus :: ts => (g.repeatLast repeated).bind fun h => assemble h outer ts
  | outer, .mark :: ts =>
    -- the shortest match is found where the longest is
    if g.state = .already then assemble { g with state := .no } outer ts
    else (g.repeatLast optional).bind fun h => assemble h outer ts

/-- The pattern that a text writes; none if it writes none. -/
def read (o : Options) (cs : List Char) : Option Pattern :=
  (tokensFrom o .outside cs).bind fun ts => assemble {} [] ts

end ContractScan.Pattern
