import ContractScan.Chain.Address
import ContractScan.Contract
import ContractScan.Network.Explorer
import ContractScan.Network.Node

/-!
# Fetching -- all facts about one address

The address is trimmed and checked before anything is asked. The state comes from the providers; the
explorer is asked only about an address with code, and only with a key. A fetch is a function of the
scripts: its result, the requests it made, and what is left of the scripts.
-/

namespace ContractScan.Network

open ContractScan.Text

/-- Why a fetch has no facts. -/
inductive FetchError where
  | invalidAddress
  | noProvider
  /-- The transactions could not be summed up. -/
  | summary (f : Fault)
  deriving DecidableEq, Repr

/-- The wording of the errors that are told. -/
def FetchError.message? : FetchError → Option String
  | .invalidAddress => some "Invalid Ethereum address format."
  | .noProvider => some "All RPC providers failed"
  | .summary _ => none

/-- What came of a fetch. -/
structure FetchRun where
  result : Except FetchError ContractInfo
  requests : List Request
  /-- The replies that were not used. -/
  rest : Scripts

/-- The facts from the state of an address and what the explorer says. -/
def contractInfo (address : String) (state : ChainState) (facts : ExplorerFacts) : ContractInfo where
  address := .str address
  isContract := .bool (!state.bytecode.isText "0x")
  bytecode := state.bytecode
  isVerified := .bool facts.isVerified
  sourceCode := facts.sourceCode
  contractName := facts.contractName
  balance := .str state.balance
  creator := facts.creator
  analytics := facts.analytics

/-- Whether the explorer is asked: there is code, and there is a key. -/
def asksExplorer (s : Settings) (state : ChainState) : Bool :=
  !state.bytecode.isText "0x" && s.explorerKey.any (· != "")

/-- Fetches the facts about an address that was checked. -/
def fetchChecked (s : Settings) (address : String) (scripts : Scripts) : FetchRun :=
  let run := askProviders address s.rpcUrls scripts.posts
  match run.state with
  | none => ⟨.error .noProvider, run.requests, ⟨run.rest, scripts.gets⟩⟩
  | some state =>
    if asksExplorer s state then
      -- the replies belong to the look-ups in the order of `lookups`
      let (source, gets) := takeReply scripts.gets
      let (creation, gets) := takeReply gets
      let (activity, gets) := takeReply gets
      ⟨match explorerFacts source creation activity with
        | .ok facts => .ok (contractInfo address state facts)
        | .error f => .error (.summary f),
        run.requests ++ lookups s address, ⟨run.rest, gets⟩⟩
    else ⟨.ok (contractInfo address state {}), run.requests, ⟨run.rest, scripts.gets⟩⟩

/-- Fetches the facts about an address. -/
def fetch (s : Settings) (address : String) (scripts : Scripts) : FetchRun :=
  let exact := trimmed address
  if Chain.isAddress exact.toList then fetchChecked s exact scripts
  else ⟨.error .invalidAddress, [], scripts⟩

end ContractScan.Network
