import ContractScan.Number.Binary64

/-!
# Settings

What can be configured, with the values that hold when nothing is said.
-/

namespace ContractScan

open ContractScan.Number

/-- The configuration of the service. -/
structure Settings where
  appEnv : String := "development"
  appDebug : Bool := false
  /-- The least level that is logged. -/
  logLevel : String := "INFO"
  rpcUrls : List String := ["https://cloudflare-eth.com"]
  explorerUrl : String := "https://api.etherscan.io/v2/api"
  /-- The network that the explorer is asked about. -/
  chainId : Int := 1
  explorerKey : Option String := none
  timeoutSeconds : Binary64 := .ofInt 10
  /-- How many transactions to ask for. -/
  recentTxLimit : Int := 25
  snippetContextLines : Int := 2
  corsOrigins : List String := ["http://localhost:3000"]

/-- Whether the service runs in production. -/
def Settings.isProduction (s : Settings) : Bool := s.appEnv == "production"

end ContractScan
