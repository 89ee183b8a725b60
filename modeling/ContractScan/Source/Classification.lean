import ContractScan.Json.Display
import ContractScan.Source.Kind
import ContractScan.Source.Tag

/-!
# Classification -- the kind of a source and a line about it
-/

namespace ContractScan.Source

/-- What a source says about its contract. -/
structure Classification where
  contractType : String
  contractDescription : String
  deriving DecidableEq, Repr

/-- The line for a source without tags. -/
def genericDescription (contractType contractName : String) : String :=
  "A " ++ contractType ++ " contract named " ++ contractName ++ "."

/-- The line about a source: the text of a tag, or the generic line. -/
def describe (code : List Char) (contractType contractName : String) : String :=
  match tagged? code with
  | some t => String.ofList t
  | none => genericDescription contractType contractName

/-- The classification of a source. -/
def classify (code : List Char) (contractName : String) : Classification :=
  let label := (Kind.ofCode code).label
  ⟨label, describe code label contractName⟩

end ContractScan.Source
