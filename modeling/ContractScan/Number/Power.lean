/-!
# Powers of two and of ten

The two powers that number formats are made of.
-/

namespace ContractScan.Number

/-- The power of two with the exponent `n`. -/
def twoTo (n : Nat) : Nat := Nat.pow 2 n

/-- The power of ten with the exponent `n`. -/
def tenTo (n : Nat) : Nat := Nat.pow 10 n

/-- One step up doubles a power of two. -/
theorem twoTo_succ (n : Nat) : twoTo (n + 1) = twoTo n * 2 := rfl

/-- One step up adds a zero to a power of ten. -/
theorem tenTo_succ (n : Nat) : tenTo (n + 1) = tenTo n * 10 := rfl

/-- A power of two is positive. -/
theorem twoTo_pos (n : Nat) : 0 < twoTo n := Nat.pow_pos (by decide)

/-- A power of ten is positive. -/
theorem tenTo_pos (n : Nat) : 0 < tenTo n := Nat.pow_pos (by decide)

end ContractScan.Number
