import ContractScan.Json.Basic
import ContractScan.Number.Shortest
import ContractScan.Text.Quoted

/-!
# Displaying JSON values inside a sentence

A text stands for itself; any other value is shown as a literal: `None`, `True`, `False`, numbers, lists
in brackets and objects in braces, with the texts inside them quoted.
-/

namespace ContractScan.Json

open ContractScan.Number ContractScan.Text

/-- Numbers as literals: as in data, but `nan` and `inf`. -/
def literalLayout : DecimalLayout := { dataLayout with nanText := "nan", infinityText := "inf" }

mutual

/-- A value as a literal. -/
def literal : Json → String
  | .null => "None"
  | .bool true => "True"
  | .bool false => "False"
  | .int n => toString n
  | .float x => literalLayout.write x
  | .str s => quoted s
  | .arr xs => "[" ++ literalItems "" xs ++ "]"
  | .obj fs => "\x7b" ++ literalFields "" fs ++ "\x7d"

/-- The items of a list, each after a separator; `sep` is the first one. -/
def literalItems (sep : String) : List Json → String
  | [] => ""
  | v :: rest => sep ++ literal v ++ literalItems ", " rest

/-- The fields of an object, each after a separator; `sep` is the first one. -/
def literalFields (sep : String) : List (String × Json) → String
  | [] => ""
  | (k, v) :: rest => sep ++ quoted k ++ ": " ++ literal v ++ literalFields ", " rest

end

/-- A value inside a sentence. -/
def display : Json → String
  | .str s => s
  | v => literal v

end ContractScan.Json
