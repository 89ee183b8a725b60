import ContractScan.Chain.Activity
import ContractScan.Json.Display
import ContractScan.Network.Exchange
import ContractScan.Settings.Basic

/-!
# The explorer -- published source, creator and recent transactions

A look-up is a get whose parameters end with the network and the key, each exactly once. Its answer
counts if it is an object with the status `1` and a list as result; of that list the objects are kept.
Whatever else comes back counts as no answer. The three look-ups about an address are made in a fixed
order and do not depend on each other.
-/

namespace ContractScan.Network

/-- A value as the text of a parameter. -/
def paramText : Json → String
  | .null => ""
  | .bool true => "true"
  | .bool false => "false"
  | v => v.display

/-- The texts of a parameter: one for each item of a list, else one. -/
def paramTexts : Json → List String
  | .arr xs => xs.map paramText
  | v => [paramText v]

/-- The parameters of a look-up: those given, with network and key put in. -/
def lookupFields (s : Settings) (given : Fields) : Fields :=
  Fields.insert (Fields.insert given "chainid" (.int s.chainId)) "apikey"
    (s.explorerKey.elim .null .str)

/-- The request of a look-up. -/
def lookup (s : Settings) (given : Fields) : Request :=
  .get s.explorerUrl
    ((lookupFields s given).flatMap fun f => (paramTexts f.2).map fun t => (f.1, t))

/-- The rows that an answer gives. -/
def rowsOf? (answer : Json) : Option (List Json) :=
  match answer with
  | .obj fs =>
    match Fields.find? fs "status", Fields.find? fs "result" with
    | some (.str "1"), some (.arr rows) => some (rows.filter Json.isObject)
    | _, _ => none
  | _ => none

/-- The rows of a look-up that is met with a reply. -/
def lookupRows? (r : Reply) : Option (List Json) :=
  match r.value with
  | .ok v => rowsOf? v
  | .error _ => none

/-- The parameters of the look-up of the source. -/
def sourceParams (address : String) : Fields :=
  [("module", .str "contract"), ("action", .str "getsourcecode"), ("address", .str address)]

/-- The parameters of the look-up of the creator. -/
def creationParams (address : String) : Fields :=
  [("module", .str "contract"), ("action", .str "getcontractcreation"),
   ("contractaddresses", .str address)]

/-- The parameters of the look-up of the latest transactions. -/
def activityParams (address : String) (limit : Int) : Fields :=
  [("module", .str "account"), ("action", .str "txlist"), ("address", .str address),
   ("startblock", .int 0), ("endblock", .int 99999999), ("page", .int 1), ("offset", .int limit),
   ("sort", .str "desc")]

/-- The requests about an address, in order. -/
def lookups (s : Settings) (address : String) : List Request :=
  [lookup s (sourceParams address), lookup s (creationParams address),
   lookup s (activityParams address s.recentTxLimit)]

/-- The value of a field of the first row that counts as present. -/
def firstField? (rows : Option (List Json)) (name : String) : Option Json :=
  match rows with
  | some (row :: _) => (row.field? name).filter Json.isTruthy
  | _ => none

/-- What the explorer says about an address. -/
structure ExplorerFacts where
  isVerified : Bool := false
  sourceCode : Json := .null
  contractName : Json := .str "Unknown"
  creator : Json := .str "Unknown"
  analytics : Json := .obj []

/-- The facts that three replies give: to the look-ups of source, creator and transactions. -/
def explorerFacts (source creation activity : Reply) : Except Fault ExplorerFacts := do
  let sourceRows := lookupRows? source
  let code := firstField? sourceRows "SourceCode"
  let summary ← Chain.summarize ((lookupRows? activity).getD [])
  return {
    isVerified := code.isSome
    sourceCode := code.getD .null
    contractName := (firstField? sourceRows "ContractName").getD (.str "Unknown")
    creator := (firstField? (lookupRows? creation) "contractCreator").getD (.str "Unknown")
    analytics := summary.toJson }

end ContractScan.Network
