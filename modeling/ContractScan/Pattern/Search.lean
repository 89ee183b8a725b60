import ContractScan.Pattern.Basic

/-!
# Search -- whether a pattern matches somewhere in a text

The search goes over the text once and carries the patterns that remain of the attempts begun so far.
`residues p b c a` are the patterns, one of which has to match the rest, after `p` has taken the
character `c`; `matchesEmpty` says when nothing more has to be taken. Since a residue is looked at where
it stands, edges need no special care. `Pattern.Lemmas` ties both to `Spans`.
-/

namespace ContractScan.Pattern

/-- Whether `p` matches the empty stretch between `before` and `after`. -/
def matchesEmpty (before : Option Char) (after : List Char) : Pattern → Bool
  | .empty => true
  | .one _ => false
  | .edge e => e.holds before after
  | .seq p q => matchesEmpty before after p && matchesEmpty before after q
  | .alt p q => matchesEmpty before after p || matchesEmpty before after q
  | .many _ => true

/-- `p` and then `q`, without an empty pattern in front. -/
def andThen (p q : Pattern) : Pattern := if p = .empty then q else .seq p q

/-- What may remain of `p` after it has taken `c`, which stands between `before` and `after`. -/
def residues (before : Option Char) (c : Char) (after : List Char) : Pattern → List Pattern
  | .empty => []
  | .one s => if s.holds c then [.empty] else []
  | .edge _ => []
  | .seq p q =>
    (residues before c after p).map (andThen · q) ++
      (if matchesEmpty before (c :: after) p then residues before c after q else [])
  | .alt p q => residues before c after p ++ residues before c after q
  | .many p => (residues before c after p).map (andThen · (.many p))

/-- Whether `p`, begun here or later, or one of the live residues comes to a match. -/
def found (p : Pattern) : List Pattern → Option Char → List Char → Bool
  | live, before, rest =>
    (matchesEmpty before rest p || live.any (matchesEmpty before rest)) ||
      match rest with
      | [] => false
      | c :: cs =>
        found p ((p :: live).flatMap (residues before c cs)).eraseDups (some c) cs

/-- Whether `p` matches a stretch somewhere in the text. -/
def occursIn (p : Pattern) (text : List Char) : Bool := found p [] none text

end ContractScan.Pattern
