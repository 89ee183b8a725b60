import ContractScan.Wire.Datum

/-!
# Models -- what goes over the wire

Each model is read by a check of data and written by a dump. Findings, reports and contract summaries
take their fields from objects as well as from JSON, and are written under the names outside unless the
names inside are asked for; the request and the whole response are read from JSON alone.
-/

namespace ContractScan.Wire

/-- What is asked for. -/
structure AnalyzeRequest where
  address : String
  deriving DecidableEq, Repr

/-- The facts about a contract, as far as they are told. -/
structure ContractSummary where
  address : String
  isContract : Bool
  balance : String
  bytecodeSize : Int
  isVerified : Bool
  contractName : String
  creator : String
  analytics : Fields

/-- The whole answer. -/
structure AnalyzeResponse where
  info : ContractSummary
  analysis : Report

/-! ## The names of the fields -/

namespace Name

def tool : FieldName := .word "tool"
def severity : FieldName := .word "severity"
def description : FieldName := .word "description"
def location : FieldName := .word "location"
def layman : FieldName := .word "layman"
def technical : FieldName := .word "technical"
def snippet : FieldName := .word "snippet"
def findings : FieldName := .word "findings"
def score : FieldName := .word "score"
def interpretation : FieldName := .word "interpretation"
def contractType : FieldName := ⟨"contract_type", "contractType"⟩
def contractDescription : FieldName := ⟨"contract_description", "contractDescription"⟩
def logs : FieldName := .word "logs"
def address : FieldName := .word "address"
def isContract : FieldName := ⟨"is_contract", "isContract"⟩
def balance : FieldName := .word "balance"
def bytecodeSize : FieldName := ⟨"bytecode_size", "bytecodeSize"⟩
def isVerified : FieldName := ⟨"is_verified", "isVerified"⟩
def contractName : FieldName := ⟨"contract_name", "contractName"⟩
def creator : FieldName := .word "creator"
def analytics : FieldName := .word "analytics"
def info : FieldName := .word "info"
def analysis : FieldName := .word "analysis"

end Name

/-- A text of 1 to 100 characters. -/
def checkAddress (s : String) : Except Problem String :=
  if s.length < 1 then .error (.tooShort 1)
  else if 100 < s.length then .error (.tooLong 100)
  else .ok s

/-- A score from 0 to 100. -/
def checkScore (n : Int) : Except Problem Int :=
  if n < 0 then .error (.below 0) else if 100 < n then .error (.above 100) else .ok n

/-- The severity of a name. -/
def asSeverity (v : Json) : Except Problem Severity :=
  match v.text?.bind Severity.ofName? with
  | some s => .ok s
  | none => .error .notSeverity

/-- The fields of an object. -/
def asObject (v : Json) : Except Problem Fields :=
  match v with
  | .obj fs => .ok fs
  | _ => .error .notObject

/-- Checks the parts of JSON objects only. -/
def fromObject {α : Type} (model : String) (check : List (String × Datum) → Checked α) (d : Datum) :
    Checked α :=
  match d with
  | .value (.obj _) => check (d.parts?.getD [])
  | _ => .invalid [⟨[], .notModel model⟩]

/-- Checks the parts of whatever has parts. -/
def fromParts {α : Type} (check : List (String × Datum) → Checked α) (d : Datum) : Checked α :=
  match d.parts? with
  | some ps => check ps
  | none => .invalid [⟨[], .noFields⟩]

/-- Checks the parts of a request. -/
def AnalyzeRequest.checkParts (ps : List (String × Datum)) : Checked AnalyzeRequest :=
  AnalyzeRequest.mk
    <$> required ps Name.address fun d => (coerced asText d).andThen checkAddress

/-- Checks a request. -/
def AnalyzeRequest.check : Datum → Checked AnalyzeRequest :=
  fromObject "AnalyzeRequest" AnalyzeRequest.checkParts

/-- Checks a finding. -/
def checkFinding : Datum → Checked Finding :=
  fromParts fun ps =>
    Finding.mk
      <$> required ps Name.tool (coerced asText)
      <*> required ps Name.severity (coerced asSeverity)
      <*> required ps Name.description (coerced asText)
      <*> required ps Name.location (coerced asText)
      <*> required ps Name.layman (coerced asText)
      <*> required ps Name.technical (coerced asText)
      <*> optional ps Name.snippet none (coerced asOptionalText)

/-- Checks a report. -/
def checkReport : Datum → Checked Report :=
  fromParts fun ps =>
    Report.mk
      <$> required ps Name.findings (listOf checkFinding)
      <*> required ps Name.score (fun d => (coerced asInteger d).andThen checkScore)
      <*> required ps Name.interpretation (coerced asText)
      <*> required ps Name.contractType (coerced asText)
      <*> required ps Name.contractDescription (coerced asText)
      <*> required ps Name.logs (listOf (coerced asText))

/-- Checks a summary of contract facts. -/
def ContractSummary.check : Datum → Checked ContractSummary :=
  fromParts fun ps =>
    ContractSummary.mk
      <$> required ps Name.address (coerced asText)
      <*> required ps Name.isContract (coerced asBool)
      <*> required ps Name.balance (coerced asText)
      <*> required ps Name.bytecodeSize (coerced asInteger)
      <*> required ps Name.isVerified (coerced asBool)
      <*> required ps Name.contractName (coerced asText)
      <*> required ps Name.creator (coerced asText)
      <*> required ps Name.analytics (coerced asObject)

/-- Checks a whole answer. -/
def AnalyzeResponse.check : Datum → Checked AnalyzeResponse :=
  fromObject "AnalyzeResponse" fun ps =>
    AnalyzeResponse.mk
      <$> required ps Name.info ContractSummary.check
      <*> required ps Name.analysis checkReport

/-- A request as a value. -/
def AnalyzeRequest.dump (r : AnalyzeRequest) (k : KeyStyle) : Json :=
  .obj [(Name.address.in k, .str r.address)]

/-- A finding as a value. -/
def dumpFinding (k : KeyStyle) (f : Finding) : Json :=
  .obj [(Name.tool.in k, .str f.tool), (Name.severity.in k, f.severity.toJson),
    (Name.description.in k, .str f.description), (Name.location.in k, .str f.location),
    (Name.layman.in k, .str f.layman), (Name.technical.in k, .str f.technical),
    (Name.snippet.in k, Datum.optionalText f.snippet)]

/-- A report as a value. -/
def dumpReport (k : KeyStyle) (r : Report) : Json :=
  .obj [(Name.findings.in k, .arr (r.findings.map (dumpFinding k))), (Name.score.in k, .int r.score),
    (Name.interpretation.in k, .str r.interpretation),
    (Name.contractType.in k, .str r.contractType),
    (Name.contractDescription.in k, .str r.contractDescription),
    (Name.logs.in k, .arr (r.logs.map .str))]

/-- A summary of contract facts as a value. -/
def ContractSummary.dump (c : ContractSummary) (k : KeyStyle) : Json :=
  .obj [(Name.address.in k, .str c.address), (Name.isContract.in k, .bool c.isContract),
    (Name.balance.in k, .str c.balance), (Name.bytecodeSize.in k, .int c.bytecodeSize),
    (Name.isVerified.in k, .bool c.isVerified), (Name.contractName.in k, .str c.contractName),
    (Name.creator.in k, .str c.creator), (Name.analytics.in k, .obj c.analytics)]

/-- A whole answer as a value. -/
def AnalyzeResponse.dump (r : AnalyzeResponse) (k : KeyStyle) : Json :=
  .obj [(Name.info.in k, r.info.dump k), (Name.analysis.in k, dumpReport k r.analysis)]

/-- The models. -/
inductive Model where
  | analyzeRequest
  | finding
  | report
  | contractInfo
  | analyzeResponse
  deriving DecidableEq, Repr

/-- Checks data against a model and dumps the result. -/
def Model.pass (m : Model) (k : KeyStyle) (d : Datum) : Checked Json :=
  match m with
  | .analyzeRequest => (AnalyzeRequest.check d).map (·.dump k)
  | .finding => (checkFinding d).map (dumpFinding k)
  | .report => (checkReport d).map (dumpReport k)
  | .contractInfo => (ContractSummary.check d).map (·.dump k)
  | .analyzeResponse => (AnalyzeResponse.check d).map (·.dump k)

end ContractScan.Wire
