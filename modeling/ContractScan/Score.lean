import ContractScan.Fault
import ContractScan.Finding
import ContractScan.Json.Basic

/-!
# Score -- from severities to a number and a verdict

A score starts at 100 and loses a fixed amount for each finding; it never goes below 0. Severities may
come from outside: a value that names no severity costs nothing, but a list or an object cannot be
looked up at all.
-/

namespace ContractScan

/-- The score of a contract without findings. -/
def maxScore : Nat := 100

/-- What a finding of the severity costs. -/
def Severity.penalty : Severity → Nat
  | .critical => 20
  | .high => 10
  | .medium => 5
  | .low => 1

/-- What a finding costs whose severity is the value. -/
def penaltyOf (severity : Json) : Except Fault Nat :=
  match severity with
  | .str s => .ok ((Severity.ofName? s).elim 0 Severity.penalty)
  | .arr _ => .error .unrankable
  | .obj _ => .error .unrankable
  | _ => .ok 0

/-- What is left when the penalties of the severities are taken away one by one. -/
def deduct (left : Int) : List Json → Except Fault Int
  | [] => .ok left
  | s :: rest => do
    let p ← penaltyOf s
    deduct (left - p) rest

/-- The score when so much is left: what is below 0 counts as 0, what is left without findings is raised
to the full score unless it is 0, and no score is above that. -/
def settledScore (clean : Bool) (left : Int) : Nat :=
  let floored := max left 0
  let raised := if clean && 0 < floored then (maxScore : Int) else floored
  (min raised maxScore).toNat

/-- The score of findings with these severities. -/
def scoreOf (severities : List Json) : Except Fault Nat :=
  (deduct maxScore severities).map (settledScore severities.isEmpty)

/-- A severity as a value. -/
def Severity.toJson (s : Severity) : Json := .str s.name

/-- What findings cost together. -/
def Finding.cost : List Finding → Nat
  | [] => 0
  | f :: fs => f.severity.penalty + cost fs

/-- The score of findings. -/
def Finding.score (fs : List Finding) : Nat := maxScore - cost fs

/-- What a score means. -/
inductive Verdict where
  /-- At least 90. -/
  | excellent
  /-- At least 70. -/
  | decent
  /-- Below 70. -/
  | bad
  deriving DecidableEq, Repr

namespace Verdict

/-- The wording. -/
def text : Verdict → String
  | .excellent => "Excellent vibes. Seems clean."
  | .decent => "Decent vibes, but check the warnings."
  | .bad => "Bad vibes. High risk detected."

/-- The verdict on a number, told by a test whether it is at least an integer. -/
def byThresholds (atLeast : Int → Bool) : Verdict :=
  if atLeast 90 then .excellent else if atLeast 70 then .decent else .bad

/-- The verdict on a score. -/
def ofScore (score : Int) : Verdict := byThresholds (decide <| · ≤ score)

/-- The verdict on a value; a truth value counts as 0 or 1. -/
def ofValue (v : Json) : Except Fault Verdict :=
  match v with
  | .int n => .ok (ofScore n)
  | .bool b => .ok (ofScore b.toNat)
  | .float x => .ok (byThresholds x.atLeast)
  | _ => .error .notNumber

end Verdict

end ContractScan
