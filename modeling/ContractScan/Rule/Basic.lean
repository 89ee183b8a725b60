import ContractScan.Fault
import ContractScan.Finding
import ContractScan.Pattern.Reader
import ContractScan.Pattern.Search

/-!
# Rules -- what a text has to hold for a finding

A rule fires on a text when its pattern matches somewhere and its suppressor, if it has one, matches
nowhere. Patterns are read when they are needed, so a suppressor that is not well formed does no harm
to a rule that is not triggered.
-/

namespace ContractScan

/-- One entry of a rule table. -/
structure Rule where
  name : String
  /-- What triggers it. -/
  pattern : String
  /-- What rules it out. -/
  suppressor : Option String := none
  /-- The options of both patterns, as bits. -/
  flags : Nat := 0
  severity : Severity
  description : String
  layman : String
  technical : String
  deriving DecidableEq, Repr

/-- The pattern that a text writes, or the fault that it writes none. -/
def Pattern.compile (written : String) (flags : Nat) : Except Fault Pattern :=
  match Pattern.read (.ofBits flags) written.toList with
  | some p => .ok p
  | none => .error .badPattern

namespace Rule

/-- Whether the pattern of the rule matches somewhere in the text. -/
def triggers (r : Rule) (content : List Char) : Except Fault Bool := do
  let p ← Pattern.compile r.pattern r.flags
  return p.occursIn content

/-- Whether the suppressor of the rule matches somewhere in the text. -/
def suppressed (r : Rule) (content : List Char) : Except Fault Bool :=
  match r.suppressor with
  | none => .ok false
  | some s => do
    let p ← Pattern.compile s r.flags
    return p.occursIn content

/-- Whether the rule is triggered and not suppressed; the suppressor is looked at only after that. -/
def fires (r : Rule) (content : List Char) : Except Fault Bool := do
  if ← r.triggers content then
    return !(← r.suppressed content)
  else
    return false

end Rule

end ContractScan
