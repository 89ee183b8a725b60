import ContractScan.Network.Fetch
import ContractScan.Report

/-!
# Sessions -- several steps on shared scripts

The steps of a session share one analyzer, one configuration and the scripts. Only what is left of the
scripts passes from one step to the next.
-/

namespace ContractScan.Network

/-- One step of a session. -/
inductive SessionStep where
  | analyze (facts : Fields)
  | report (facts : Fields)
  | fetch (address : String)
  /-- Fetch the facts about an address, then scan and score them. -/
  | pipeline (address : String)

/-- What came of a step. -/
inductive StepOutcome where
  /-- A scan; given facts may be no record of facts. -/
  | scanned (r : Except Fault Scan)
  | reported (r : Except Fault Report)
  | fetched (r : Except FetchError ContractInfo) (requests : List Request)
  | piped (r : Except FetchError (Except Fault Report)) (requests : List Request)

/-- What the steps of a session share. -/
structure Services where
  analyzer : Analyzer
  settings : Settings

/-- Takes a step: what came of it, and what is left of the scripts. -/
def Services.step (v : Services) (step : SessionStep) (scripts : Scripts) : StepOutcome × Scripts :=
  match step with
  | .analyze facts => (.scanned ((ContractInfo.ofFields facts).map v.analyzer.analyze), scripts)
  | .report facts => (.reported (ContractInfo.ofFields facts >>= Report.generate v.analyzer), scripts)
  | .fetch address =>
    let run := Network.fetch v.settings address scripts
    (.fetched run.result run.requests, run.rest)
  | .pipeline address =>
    let run := Network.fetch v.settings address scripts
    (.piped (run.result.map (Report.generate v.analyzer)) run.requests, run.rest)

/-- Takes steps in order: what came of each. -/
def Services.run (v : Services) : List SessionStep → Scripts → List StepOutcome
  | [], _ => []
  | s :: steps, scripts =>
    let (outcome, rest) := v.step s scripts
    outcome :: v.run steps rest

end ContractScan.Network
