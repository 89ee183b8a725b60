import ContractScan.Chain.Ether
import ContractScan.Json.Display
import ContractScan.Network.Exchange
import ContractScan.Text.Numeral
import ContractScan.Text.Occurs

/-!
# Nodes -- asking for the state of the chain

A call posts a method and parameters and is answered by an object with a `result`, or with an `error`,
which counts even if it is null. Code and balance of an address are asked of one provider after the
other, until one gives both; nothing of a provider that gives only the code is kept.
-/

namespace ContractScan.Network

/-- Why a call has no result. -/
inductive NodeError where
  | noValue (e : ReplyError)
  /-- The node reports an error. -/
  | reported (method : String) (detail : Json)
  | noResult (method : String)
  /-- The answer is no object, but looks as if it had the field that is then looked up. -/
  | notAnObject
  deriving Inhabited

/-- The wording of the errors that are told. -/
def NodeError.message? : NodeError → Option String
  | .reported method detail => some (method ++ " error: " ++ detail.display)
  | .noResult method => some (method ++ " returned no result")
  | _ => none

/-- The body of a call. -/
def callBody (method : String) (params : Json) : Json :=
  .obj [("jsonrpc", .str "2.0"), ("id", .int 1), ("method", .str method), ("params", params)]

/-- Whether a name is found in a value: as a field, as an item, or inside a text. -/
def mentions? (v : Json) (name : String) : Option Bool :=
  match v with
  | .obj fs => some (Fields.has fs name)
  | .arr xs => some (xs.any (·.isText name))
  | .str s => some (Text.occursIn name.toList s.toList)
  | _ => none

/-- What a reported error says: its message if it is an object, else itself. -/
def errorDetail (e : Json) : Json :=
  match e with
  | .obj fs => (Fields.find? fs "message").getD .null
  | v => v

/-- The result that an answer gives. -/
def resultOf (method : String) (answer : Json) : Except NodeError Json :=
  match mentions? answer "error", mentions? answer "result" with
  -- an error counts before a result, whatever it says
  | some true, _ =>
    match answer with
    | .obj fs => .error (.reported method (errorDetail ((Fields.find? fs "error").getD .null)))
    | _ => .error .notAnObject
  | some false, some true =>
    match answer with
    | .obj fs => .ok ((Fields.find? fs "result").getD .null)
    | _ => .error .notAnObject
  | some false, some false => .error (.noResult method)
  | _, _ => .error .notAnObject

/-- The result of a call that is met with a reply. -/
def callResult (method : String) (r : Reply) : Except NodeError Json :=
  match r.value with
  | .error e => .error (.noValue e)
  | .ok v => resultOf method v

/-- The call for the code of an address. -/
def codeCall : String := "eth_getCode"

/-- The call for the balance of an address. -/
def balanceCall : String := "eth_getBalance"

/-- The request of a call about an address in its latest state. -/
def addressCall (url method address : String) : Request :=
  .post url (callBody method (.arr [.str address, .str "latest"]))

/-- The balance in ether that a result gives. -/
def balanceText? (v : Json) : Option String :=
  match v with
  | .str s => (Text.readHex s.toList).map Chain.formatEther
  | _ => none

/-- The state of an address. -/
structure ChainState where
  /-- The code, as the provider gave it; `0x` for what counts as absent. -/
  bytecode : Json
  balance : String

/-- What came of asking providers. -/
structure ChainRun where
  state : Option ChainState
  requests : List Request
  /-- The replies that were not used. -/
  rest : List Reply

/-- Asks one provider for code and balance; the balance only if there is a code. -/
def askProvider (address url : String) (replies : List Reply) : ChainRun :=
  let (first, afterCode) := takeReply replies
  let codeRequest := addressCall url codeCall address
  match callResult codeCall first with
  | .error _ => ⟨none, [codeRequest], afterCode⟩
  | .ok code =>
    let (second, afterBalance) := takeReply afterCode
    let requests := [codeRequest, addressCall url balanceCall address]
    match callResult balanceCall second with
    | .error _ => ⟨none, requests, afterBalance⟩
    | .ok v =>
      ⟨(balanceText? v).map fun balance => ⟨code.orElse (.str "0x"), balance⟩, requests, afterBalance⟩

/-- Asks providers in order until one gives the state. -/
def askProviders (address : String) : List String → List Reply → ChainRun
  | [], replies => ⟨none, [], replies⟩
  | url :: urls, replies =>
    let run := askProvider address url replies
    match run.state with
    | some _ => run
    | none =>
      let more := askProviders address urls run.rest
      { more with requests := run.requests ++ more.requests }

end ContractScan.Network
