import ContractScan.Contract
import ContractScan.Rule.Sweep
import ContractScan.Source.Bundle
import ContractScan.Source.Classification

/-!
# Analysis -- one scan of one contract

A scan ends in one of three ways: there is no code at the address, the source is not published, or the
source is classified and swept. It reports its progress line by line; a listener hears each line when it
is reported, also those before a fault.
-/

namespace ContractScan

/-- The outcome of a scan. -/
structure Analysis where
  findings : List Finding
  contractType : String
  contractDescription : String
  logs : List String
  deriving DecidableEq, Repr

/-- A scan as it was observed. -/
structure Scan where
  /-- The lines that a listener heard. -/
  heard : List String
  result : Except Fault Analysis

/-- How a scan is done. -/
structure Analyzer where
  rules : List Rule := Rule.table
  /-- The lines shown before and after a match. -/
  contextLines : Int := 2

namespace Analysis

/-- The code of an address without code. -/
def noCode : String := "0x"

/-- The kind of an address without code. -/
def walletType : String := "EOA (Externally Owned Account)"

/-- The line about an address without code. -/
def walletDescription : String := "This is a regular wallet address, not a smart contract."

/-- The finding for a source that is not published. -/
def unverifiedFinding : Finding where
  tool := "VibeAnalyzer"
  severity := .medium
  description := "Unverified Contract"
  location := "Etherscan"
  layman :=
    "The source code is not public. We cannot verify what this contract actually does. Tread " ++
      "carefully."
  technical :=
    "Bytecode-only contract. Source code is not published on Etherscan. Static analysis is " ++
      "limited to opcode inspection. Verify trust or decompilation manually."
  snippet := none

/-- The first progress line. -/
def startLine (address : Json) : String :=
  "[VibeAnalyzer] Starting real-time analysis for " ++ address.display ++ "..."

/-- The second progress line. -/
def sizeLine (size : Nat) : String := "[Bytecode] Analyzing " ++ toString size ++ " bytes..."

/-- The last progress line for an address without code. -/
def noCodeLine : String := "[Bytecode] No code found. Is this an EOA?"

/-- The progress line for a published source. -/
def verifiedLine : String := "[Source] Contract is verified. Scanning source code..."

/-- The progress line for a source that is not published. -/
def unverifiedLine : String := "[Source] Contract unverified. Skipping source analysis."

/-- The last progress line. -/
def doneLine : String := "[VibeAnalyzer] Analysis complete."

/-- The outcome for an address without code. -/
def wallet (logs : List String) : Analysis := ⟨[], walletType, walletDescription, logs⟩

/-- The outcome for a source that is not published. -/
def unverified (logs : List String) : Analysis :=
  ⟨[unverifiedFinding], "Unknown", "No description available.", logs⟩

end Analysis

namespace Analyzer

open Analysis

/-- The text of a source that counts as present. -/
def sourceText (source : Json) : Except Fault String :=
  match source with
  | .str s => .ok s
  | _ => .error .notText

/-- Classifies and sweeps a published source. -/
def scanSource (a : Analyzer) (source name : Json) (logs : List String) : Except Fault Analysis := do
  let code := (Source.flatten (← sourceText source)).toList
  let c := Source.classify code name.display
  return ⟨← Rule.sweep code a.contextLines a.rules, c.contractType, c.contractDescription, logs⟩

/-- Scans a contract. -/
def analyze (a : Analyzer) (info : ContractInfo) : Scan :=
  let first := startLine info.address
  match info.bytecodeSize with
  | .error e => ⟨[first], .error e⟩
  | .ok size =>
    let begun := [first, sizeLine size]
    if info.bytecode.isText noCode then
      let logs := begun ++ [noCodeLine]
      ⟨logs, .ok (wallet logs)⟩
    else if info.isVerified.isTruthy && info.sourceCode.isTruthy then
      let logs := begun ++ [verifiedLine, doneLine]
      match a.scanSource info.sourceCode info.contractName logs with
      | .ok r => ⟨logs, .ok r⟩
      -- a fault of the sweep comes before the last line
      | .error e => ⟨begun ++ [verifiedLine], .error e⟩
    else
      let logs := begun ++ [unverifiedLine, doneLine]
      ⟨logs, .ok (unverified logs)⟩

/-- The analyzer that every other one refines has no analysis of its own. -/
def analyzeAbstractly (_ : ContractInfo) : Except Fault Analysis := .error .notImplemented

end Analyzer

end ContractScan
