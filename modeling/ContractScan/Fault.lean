/-!
# Faults -- why a computation on facts from outside has no result

Facts come as the providers gave them, so a value may turn out to be of the wrong kind where it is first
used. Each fault is a cause; none carries a wording. Several causes are of one kind, and the kind is what
a caller gets to see.
-/

namespace ContractScan

/-- Why there is no result. -/
inductive Fault where
  /-- A record lacks a required field or has one that it does not know. -/
  | badShape
  /-- The length of a value was asked that has none. -/
  | noLength
  /-- A value that is no text was used as one. -/
  | notText
  /-- A row that is no object was asked for a field. -/
  | notObject
  /-- A list or an object was looked up as a severity. -/
  | unrankable
  /-- A value that is no number was compared with one. -/
  | notNumber
  /-- A severity has an unknown name. -/
  | unknownSeverity
  /-- An infinite number was taken as an instant. -/
  | infiniteInstant
  /-- An instant lies outside of the years 1 to 9999. -/
  | yearOutOfRange
  /-- An instant does not fit a clock of 64 bits. -/
  | clockOverflow
  /-- A pattern is not well formed. -/
  | badPattern
  /-- The analyzer has no analysis of its own. -/
  | notImplemented
  deriving DecidableEq, Repr

/-- What a caller tells apart of faults. -/
inductive FaultKind where
  /-- An operation was given a value of a wrong type. -/
  | wrongType
  /-- A value does not have the operation that it was asked for. -/
  | noSuchOperation
  /-- A value of the right type is out of the range of an operation. -/
  | badValue
  /-- A number is too large to be represented. -/
  | overflow
  /-- A pattern cannot be read. -/
  | badPattern
  /-- An operation is left open. -/
  | notImplemented
  deriving DecidableEq, Repr

/-- The kind of a fault. -/
def Fault.kind : Fault → FaultKind
  | .badShape => .wrongType
  | .noLength => .wrongType
  | .notText => .noSuchOperation
  | .notObject => .noSuchOperation
  | .unrankable => .wrongType
  | .notNumber => .wrongType
  | .unknownSeverity => .badValue
  | .infiniteInstant => .overflow
  | .yearOutOfRange => .badValue
  | .clockOverflow => .overflow
  | .badPattern => .badPattern
  | .notImplemented => .notImplemented

/-- Two steps have a result when the first has one and the second has one after it. -/
theorem bind_eq_ok_iff {ε α β : Type} {x : Except ε α} {f : α → Except ε β} {b : β} :
    (x >>= f) = .ok b ↔ ∃ a, x = .ok a ∧ f a = .ok b := by
  cases x <;> simp [bind, Except.bind]

/-- A mapped step has a result when the step has one. -/
theorem map_eq_ok_iff {ε α β : Type} {x : Except ε α} {f : α → β} {b : β} :
    x.map f = .ok b ↔ ∃ a, x = .ok a ∧ f a = b := by
  cases x <;> simp [Except.map]

/-- Two steps fail when the first fails, or the second after it. -/
theorem bind_eq_error_iff {ε α β : Type} {x : Except ε α} {f : α → Except ε β} {e : ε} :
    (x >>= f) = .error e ↔ x = .error e ∨ ∃ a, x = .ok a ∧ f a = .error e := by
  cases x <;> simp [bind, Except.bind]

end ContractScan
