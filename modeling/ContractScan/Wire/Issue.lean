/-!
# Issues -- what is wrong with a value from outside, and where

A value is checked against what is expected of it. All that is wrong is collected, each problem with the
path to the place where it stands. `Checked` is a result or all issues; combining two results by `<*>`
keeps the issues of both, in order.
-/

namespace ContractScan.Wire

/-- What can be wrong with a value. -/
inductive Problem where
  | missing
  | unknownField
  | notText
  | tooShort (least : Nat)
  | tooLong (most : Nat)
  | notInteger
  /-- A text that does not write an integer. -/
  | integerText
  | fractional
  /-- A number too large for an integer to be read from. -/
  | integerSize
  | notFinite
  | notBool
  /-- A text or number that does not stand for a truth value. -/
  | boolText
  | notNumber
  /-- A text that does not write a number. -/
  | numberText
  | notList
  | notObject
  /-- Neither an object nor a value of the model. -/
  | notModel (model : String)
  /-- Nothing that fields could be taken from. -/
  | noFields
  | notSeverity
  | below (least : Int)
  | above (most : Int)
  /-- A rule of the field is broken. -/
  | rule (text : String)
  /-- A field could not be taken from a value. -/
  | unreadable (text : String)
  | notJson
  deriving DecidableEq, Repr

namespace Problem

/-- The code of a problem. -/
def code : Problem → String
  | .missing => "missing"
  | .unknownField => "extra_forbidden"
  | .notText => "string_type"
  | .tooShort _ => "string_too_short"
  | .tooLong _ => "string_too_long"
  | .notInteger => "int_type"
  | .integerText => "int_parsing"
  | .fractional => "int_from_float"
  | .integerSize => "int_parsing_size"
  | .notFinite => "finite_number"
  | .notBool => "bool_type"
  | .boolText => "bool_parsing"
  | .notNumber => "float_type"
  | .numberText => "float_parsing"
  | .notList => "list_type"
  | .notObject => "dict_type"
  | .notModel _ => "model_type"
  | .noFields => "model_attributes_type"
  | .notSeverity => "enum"
  | .below _ => "greater_than_equal"
  | .above _ => "less_than_equal"
  | .rule _ => "value_error"
  | .unreadable _ => "get_attribute_error"
  | .notJson => "json_invalid"

/-- A number of characters, in words. -/
def characters (n : Nat) : String := toString n ++ (if n = 1 then " character" else " characters")

/-- The wording of a problem. -/
def message : Problem → String
  | .missing => "Field required"
  | .unknownField => "Extra inputs are not permitted"
  | .notText => "Input should be a valid string"
  | .tooShort n => "String should have at least " ++ characters n
  | .tooLong n => "String should have at most " ++ characters n
  | .notInteger => "Input should be a valid integer"
  | .integerText => "Input should be a valid integer, unable to parse string as an integer"
  | .fractional => "Input should be a valid integer, got a number with a fractional part"
  | .integerSize => "Unable to parse input string as an integer, exceeded maximum size"
  | .notFinite => "Input should be a finite number"
  | .notBool => "Input should be a valid boolean"
  | .boolText => "Input should be a valid boolean, unable to interpret input"
  | .notNumber => "Input should be a valid number"
  | .numberText => "Input should be a valid number, unable to parse string as a number"
  | .notList => "Input should be a valid list"
  | .notObject => "Input should be a valid dictionary"
  | .notModel m => "Input should be a valid dictionary or instance of " ++ m
  | .noFields => "Input should be a valid dictionary or object to extract fields from"
  | .notSeverity => "Input should be 'Critical', 'High', 'Medium' or 'Low'"
  | .below n => "Input should be greater than or equal to " ++ toString n
  | .above n => "Input should be less than or equal to " ++ toString n
  | .rule t => "Value error, " ++ t
  | .unreadable t => "Error extracting attribute: " ++ t
  | .notJson => "JSON decode error"

end Problem

/-- One step of a path. -/
inductive PathStep where
  | field (name : String)
  | index (n : Nat)
  deriving DecidableEq, Repr

/-- A problem and where it is. -/
structure Issue where
  path : List PathStep
  problem : Problem
  deriving DecidableEq, Repr

/-- The issue seen from one step further out. -/
def Issue.under (step : PathStep) (i : Issue) : Issue := { i with path := step :: i.path }

/-- A result, or all issues. -/
inductive Checked (α : Type) where
  | valid (a : α)
  | invalid (issues : List Issue)

namespace Checked

/-- Applies a function to a result. -/
def map {α β : Type} (f : α → β) : Checked α → Checked β
  | .valid a => .valid (f a)
  | .invalid is => .invalid is

/-- Applies a checked function to a checked result; the issues of both are kept. -/
def apply {α β : Type} : Checked (α → β) → Checked α → Checked β
  | .valid f, .valid a => .valid (f a)
  | .valid _, .invalid is => .invalid is
  | .invalid is, .valid _ => .invalid is
  | .invalid is, .invalid js => .invalid (is ++ js)

instance : Functor Checked where
  map := Checked.map

instance : Pure Checked where
  pure := .valid

instance : Seq Checked where
  seq f x := Checked.apply f (x ())

/-- A result, or a problem at this place. -/
def ofExcept {α : Type} : Except Problem α → Checked α
  | .ok a => .valid a
  | .error p => .invalid [⟨[], p⟩]

/-- The same, with issues seen from one step further out. -/
def under {α : Type} (step : PathStep) : Checked α → Checked α
  | .valid a => .valid a
  | .invalid is => .invalid (is.map (Issue.under step))

/-- A further check of a result. -/
def andThen {α β : Type} (c : Checked α) (f : α → Except Problem β) : Checked β :=
  match c with
  | .valid a => ofExcept (f a)
  | .invalid is => .invalid is

/-- The issues. -/
def issues {α : Type} : Checked α → List Issue
  | .valid _ => []
  | .invalid is => is

/-- Checks items in order, the first of which has the given index. -/
def each {α β : Type} (f : β → Checked α) : Nat → List β → Checked (List α)
  | _, [] => .valid []
  | n, v :: vs => apply (map List.cons ((f v).under (.index n))) (each f (n + 1) vs)

end Checked

end ContractScan.Wire
