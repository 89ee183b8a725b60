import ContractScan.Analysis
import ContractScan.Score

/-!
# Reports -- a scan together with its score
-/

namespace ContractScan

/-- What is said about one contract. -/
structure Report where
  findings : List Finding
  /-- The score, from 0 to 100 when it was computed here. -/
  score : Int
  interpretation : String
  contractType : String
  contractDescription : String
  logs : List String
  deriving DecidableEq, Repr

namespace Report

/-- A report of an analysis and a score given with it; nothing is computed. -/
def build (a : Analysis) (score : Int) (interpretation : String) : Report :=
  ⟨a.findings, score, interpretation, a.contractType, a.contractDescription, a.logs⟩

/-- The report of an analysis. -/
def ofAnalysis (a : Analysis) : Report :=
  let s := Finding.score a.findings
  build a s (Verdict.ofScore s).text

/-- Scans a contract and scores what was found. -/
def generate (a : Analyzer) (info : ContractInfo) : Except Fault Report :=
  (a.analyze info).result.map ofAnalysis

end Report

end ContractScan
