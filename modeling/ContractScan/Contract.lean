import ContractScan.Fault
import ContractScan.Json.Display

/-!
# Contract facts -- what is known about one address

The facts are kept as the providers gave them: nothing is checked when they are put together, and a
value of the wrong kind is found where it is first used. A record of facts is made from named values,
five of which are required.
-/

namespace ContractScan

/-- The facts about an address. -/
structure ContractInfo where
  address : Json
  isContract : Json
  /-- The code, as hexadecimal text. -/
  bytecode : Json
  isVerified : Json
  sourceCode : Json
  contractName : Json := .str "Unknown"
  balance : Json := .str "0"
  creator : Json := .str "Unknown"
  analytics : Json := .obj []

namespace ContractInfo

/-- The names of the facts, in order. -/
def fieldNames : List String :=
  ["address", "is_contract", "bytecode", "is_verified", "source_code", "contract_name", "balance",
   "creator", "analytics"]

/-- Facts from named values: five are required, the others have defaults, no other name is allowed. -/
def ofFields (fs : Fields) : Except Fault ContractInfo :=
  if fs.all fun f => fieldNames.contains f.1 then
    match Fields.find? fs "address", Fields.find? fs "is_contract", Fields.find? fs "bytecode",
      Fields.find? fs "is_verified", Fields.find? fs "source_code" with
    | some address, some isContract, some bytecode, some isVerified, some sourceCode =>
      .ok {
        address, isContract, bytecode, isVerified, sourceCode
        contractName := (Fields.find? fs "contract_name").getD (.str "Unknown")
        balance := (Fields.find? fs "balance").getD (.str "0")
        creator := (Fields.find? fs "creator").getD (.str "Unknown")
        analytics := (Fields.find? fs "analytics").getD (.obj []) }
    | _, _, _, _, _ => .error .badShape
  else .error .badShape

/-- The facts as named values. -/
def toFields (i : ContractInfo) : Fields :=
  [("address", i.address), ("is_contract", i.isContract), ("bytecode", i.bytecode),
   ("is_verified", i.isVerified), ("source_code", i.sourceCode), ("contract_name", i.contractName),
   ("balance", i.balance), ("creator", i.creator), ("analytics", i.analytics)]

/-- The length of the code. -/
def bytecodeSize (i : ContractInfo) : Except Fault Nat :=
  match i.bytecode.length? with
  | some n => .ok n
  | none => .error .noLength

end ContractInfo

end ContractScan
