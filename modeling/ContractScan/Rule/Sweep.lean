import ContractScan.Rule.Excerpt
import ContractScan.Rule.Table

/-!
# The sweep -- all rules over one text

The findings of a text are those of the firing rules, in table order, each rule at most once however
often its pattern matches.
-/

namespace ContractScan.Rule

/-- The tool that a rule's finding names. -/
def tool : String := "VibeCheck-Static"

/-- The place that a rule's finding names. -/
def location : String := "Source Code"

/-- The finding of a rule that fires. -/
def finding (r : Rule) (snippet : Option String) : Finding :=
  ⟨tool, r.severity, r.description, location, r.layman, r.technical, snippet⟩

/-- The finding of a rule on a text, if the rule fires. -/
def findingOn? (r : Rule) (content : List Char) (c : Int) : Except Fault (Option Finding) := do
  if ← r.fires content then
    return some (r.finding (← excerpt content r.pattern c r.flags))
  else
    return none

/-- The findings of a text. -/
def sweep (content : List Char) (c : Int) : List Rule → Except Fault (List Finding)
  | [] => .ok []
  | r :: rs => do
    let first ← r.findingOn? content c
    let rest ← sweep content c rs
    return first.toList ++ rest

end ContractScan.Rule
