/-!
# Severities and findings

A finding is what a scan reports about one contract: who found it, how grave it is, where it stands, and
what it means to a layman and to an expert, with an excerpt of the source if there is one.
-/

namespace ContractScan

/-- How grave a finding is. -/
inductive Severity where
  | critical
  | high
  | medium
  | low
  deriving DecidableEq, Repr

namespace Severity

/-- The severities, gravest first. -/
def all : List Severity := [.critical, .high, .medium, .low]

/-- The written name. -/
def name : Severity → String
  | .critical => "Critical"
  | .high => "High"
  | .medium => "Medium"
  | .low => "Low"

/-- The severity of a written name. -/
def ofName? (s : String) : Option Severity := all.find? (·.name == s)

/-- Reading a severity's name gives the severity. -/
theorem ofName?_name (s : Severity) : ofName? s.name = some s := by
  cases s <;> decide

end Severity

/-- One reported fact about a contract. -/
structure Finding where
  tool : String
  severity : Severity
  description : String
  /-- Where it stands. -/
  location : String
  layman : String
  technical : String
  snippet : Option String
  deriving DecidableEq, Repr

end ContractScan
