import ContractScan.Text.Case
import ContractScan.Text.Occurs

/-!
# Kinds of contracts -- told from the words in the source

A cascade of word lists is gone through from the top; the first whose words occur in the lower case of
the source names the kind. A need of the cascade is a list of words, one of which has to occur.
-/

namespace ContractScan.Source

open ContractScan.Text

/-- What a contract is for. -/
inductive Kind where
  | router
  | pair
  | nft
  | erc20
  | governance
  | staking
  | proxy
  | general
  deriving DecidableEq, Repr

/-- The written name of a kind. -/
def Kind.label : Kind → String
  | .router => "DeFi Router / DEX"
  | .pair => "DeFi Liquidity Pair"
  | .nft => "NFT / Gaming"
  | .erc20 => "ERC20 Token"
  | .governance => "DAO / Governance"
  | .staking => "Staking / Yield"
  | .proxy => "Proxy Contract"
  | .general => "General Utility / Unclassified"

/-- One step of the cascade. -/
structure KindRule where
  /-- Of each list one word has to occur. -/
  needs : List (List String)
  kind : Kind

/-- The cascade. -/
def cascade : List KindRule :=
  [⟨[["router"], ["swap"]], .router⟩,
   ⟨[["pair"], ["liquidity"]], .pair⟩,
   ⟨[["erc721", "erc1155", "nft"]], .nft⟩,
   ⟨[["erc20"], ["token", "coin"]], .erc20⟩,
   ⟨[["governance", "dao", "proposal"]], .governance⟩,
   ⟨[["staking", "reward"]], .staking⟩,
   ⟨[["proxy", "implementation"]], .proxy⟩]

/-- Whether the needs of a step are met, for a test that tells which words occur. -/
def KindRule.met (r : KindRule) (occurs : String → Bool) : Bool := r.needs.all (·.any occurs)

/-- The kind of the first step whose needs are met. -/
def Kind.first (occurs : String → Bool) : Kind :=
  match cascade.find? (·.met occurs) with
  | some r => r.kind
  | none => .general

/-- The kind of a source. -/
def Kind.ofCode (code : List Char) : Kind :=
  let lowered := lower code
  Kind.first fun w => occursIn w.toList lowered

end ContractScan.Source
