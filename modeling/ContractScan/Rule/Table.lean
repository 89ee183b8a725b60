import ContractScan.Rule.Basic

/-!
# The built-in rule table

Eight rules, in the order in which their findings are reported. Patterns are written forms: see
`Pattern.read`.
-/

namespace ContractScan.Rule

/-- Sending value by a low-level call that no guard protects. -/
def reentrancy : Rule where
  name := "Potential Reentrancy"
  pattern := "\\.call\\s*\\\x7b.*value:"
  suppressor := some "nonReentrant"
  severity := .high
  description := "Potential Reentrancy (Low-level call)"
  layman :=
    "The contract sends money using a low-level method. If not protected, a hacker could " ++
      "re-enter the contract and drain it."
  technical :=
    "The contract uses a low-level .call() with value transfer. This passes control flow to " ++
      "the recipient, who can recursively call back into the contract before the state is " ++
      "updated (Checks-Effects-Interactions pattern violation). Ensure you use a " ++
      "ReentrancyGuard."

/-- A low-level call whose outcome is not tested. -/
def uncheckedCall : Rule where
  name := "Unchecked Return Value"
  pattern := "\\.call\\s*\\\x7b"
  suppressor := some "(require|if\\s*)\\s*\\(.*success"
  severity := .medium
  description := "Unchecked Low-Level Call"
  layman :=
    "The contract calls another contract but might not check if it succeeded. Money or data " ++
      "could be lost silently."
  technical :=
    "Low-level .call() returns a boolean indicating success. If this return value is not " ++
      "checked, the transaction continues even if the external call failed, potentially leaving " ++
      "the contract in an inconsistent state."

/-- The sender of the transaction, taken for the caller. -/
def txOrigin : Rule where
  name := "Tx.Origin Usage"
  pattern := "tx\\.origin"
  severity := .medium
  description := "Usage of tx.origin"
  layman :=
    "Using tx.origin for authentication is unsafe. Phishing attacks could trick you into " ++
      "calling a malicious contract that drains your funds."
  technical :=
    "tx.origin returns the original sender of the transaction, not the immediate caller " ++
      "(msg.sender). If a user calls a malicious contract that forwards the call to this " ++
      "contract, tx.origin will still be the user, bypassing authentication."

/-- Deleting the contract. -/
def selfDestruct : Rule where
  name := "Selfdestruct"
  pattern := "selfdestruct|suicide"
  severity := .high
  description := "Usage of selfdestruct"
  layman :=
    "This contract can delete itself. If you are not the owner, your funds could be locked " ++
      "or stolen if the contract disappears."
  technical :=
    "The selfdestruct opcode allows the contract to be deleted from the blockchain. If " ++
      "access control is weak, an attacker can destroy the contract. Note: EIP-6780 limits " ++
      "selfdestruct functionality in newer blocks."

/-- Running the code of another contract on this storage. -/
def delegateCall : Rule where
  name := "Delegatecall"
  pattern := "delegatecall"
  severity := .high
  description := "Usage of delegatecall"
  layman :=
    "This contract executes code from another address. If that other address is malicious or " ++
      "changeable, your funds are at risk."
  technical :=
    "delegatecall executes code from another contract in the context of the current contract " ++
      "(storage, msg.sender, msg.value). If the target address is malicious or can be " ++
      "overwritten, it allows arbitrary code execution and state manipulation."

/-- Randomness from the block header. -/
def weakRandomness : Rule where
  name := "Weak Randomness"
  pattern := "block\\.difficulty|block\\.prevrandao"
  severity := .low
  description := "Weak Randomness Source"
  layman :=
    "The contract uses block difficulty for randomness. Miners can manipulate this to win " ++
      "games or lotteries."
  technical :=
    "block.difficulty (or block.prevrandao in PoS) is not a secure source of randomness. " ++
      "Validators can manipulate it to influence the outcome of random number generation."

/-- The time of the block. -/
def blockTimestamp : Rule where
  name := "Block Timestamp"
  pattern := "block\\.timestamp"
  severity := .low
  description := "Dependency on block.timestamp"
  layman :=
    "Miners can manipulate the time slightly. Do not use this for critical randomness or " ++
      "tight deadlines."
  technical :=
    "Block producers can shift block.timestamp by several seconds. Relying on it for precise " ++
      "randomness or exact timing constraints can be exploited."

/-- A compiler version that is not fixed. -/
def floatingPragma : Rule where
  name := "Floating Pragma"
  pattern := "pragma\\s+solidity\\s+[\\^><]"
  severity := .low
  description := "Floating Pragma"
  layman :=
    "The contract allows multiple compiler versions. It should lock a specific version to " ++
      "ensure safety."
  technical :=
    "Using a floating pragma (e.g. ^0.8.0) allows the contract to be compiled with any newer " ++
      "version. This can introduce unexpected bugs if a future compiler version changes " ++
      "behavior. Production contracts should lock the version."

/-- The built-in table. -/
def table : List Rule :=
  [reentrancy, uncheckedCall, txOrigin, selfDestruct, delegateCall, weakRandomness, blockTimestamp,
   floatingPragma]

end ContractScan.Rule
