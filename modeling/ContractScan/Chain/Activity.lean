import ContractScan.Chain.Calendar
import ContractScan.Json.Basic
import ContractScan.Text.Case
import ContractScan.Text.Numeral

/-!
# Activity -- a summary of transactions

From a page of transaction rows: how many there are, how many distinct senders, whatever the case of
their text, how many failed, and when the last one was. A row whose time cannot be read as an integer
has no time. Rows come from outside, so a field may hold anything.
-/

namespace ContractScan.Chain

open ContractScan.Text

/-- A summary of transactions. -/
structure Activity where
  txCount : Nat
  uniqueSenders : Nat
  failedTxCount : Nat
  lastActivity : Option String
  deriving DecidableEq, Repr

/-- The integer that a value denotes; none for what denotes no integer. A number loses its fraction. -/
def readInstant (v : Json) : Except Fault (Option Int) :=
  match v with
  | .int n => .ok (some n)
  | .bool b => .ok (some b.toNat)
  | .str s => .ok (readDecimal s.toList)
  | .float (.infinite _) => .error .infiniteInstant
  | .float x => .ok x.truncate?
  | _ => .ok none

/-- A field of a row. -/
def rowField (row : Json) (name : String) : Except Fault Json :=
  match row.field? name with
  | some v => .ok v
  | none => .error .notObject

/-- The sender of a row in lower case, if it has one. -/
def senderOf (row : Json) : Except Fault (Option (List Char)) := do
  let v ← rowField row "from"
  if v.isTruthy then
    match v with
    | .str s => return some (lower s.toList)
    | _ => throw .notText
  else
    return none

/-- Whether a row is marked as failed. -/
def isFailed (row : Json) : Bool := (row.field? "isError").any (·.isText "1")

/-- The time of a row. -/
def instantOf (row : Json) : Except Fault (Option Int) := do
  readInstant (← rowField row "timeStamp")

/-- A result for each row, in order; the first fault ends it. -/
def forRows {α : Type} (f : Json → Except Fault α) : List Json → Except Fault (List α)
  | [] => .ok []
  | r :: rs => do
    let x ← f r
    let xs ← forRows f rs
    return x :: xs

/-- The greatest of several instants. -/
def latest? : List Int → Option Int
  | [] => none
  | t :: ts => some (ts.foldl max t)

/-- The written form of the latest instant. -/
def latestText (ts : List Int) : Except Fault (Option String) :=
  match latest? ts with
  | none => .ok none
  | some t => (instantText t).map some

/-- The summary of rows. Senders are looked at before times. -/
def summarize (rows : List Json) : Except Fault Activity := do
  let senders ← forRows senderOf rows
  let instants ← forRows instantOf rows
  let last ← latestText (instants.filterMap id)
  return ⟨rows.length, (senders.filterMap id).eraseDups.length, rows.countP isFailed, last⟩

/-- A text or null. -/
def optionalText (s : Option String) : Json := s.elim .null .str

/-- The summary as a value. -/
def Activity.toJson (a : Activity) : Json :=
  .obj [("txCount", .int a.txCount), ("uniqueSenders", .int a.uniqueSenders),
    ("failedTxCount", .int a.failedTxCount), ("lastActivity", optionalText a.lastActivity)]

end ContractScan.Chain
