import ContractScan.Report
import ContractScan.Wire.Coerce

/-!
# Data to be checked

What a model is checked against: a JSON value, an object whose attributes are looked up by name, or a
list of such data. An attribute may fail when it is looked up. A field of a model is looked up under its
camel case name first, and then under its snake case name.
-/

namespace ContractScan.Wire

/-- A piece of data. -/
inductive Datum where
  | value (v : Json)
  | object (attributes : List (String × Datum))
  | list (items : List Datum)
  /-- An attribute that fails when it is looked up, with the reason. -/
  | broken (reason : String)

namespace Datum

/-- The value, if it is one; anything else counts as null. -/
def json : Datum → Json
  | .value v => v
  | .list _ => .arr []
  | .object _ => .obj []
  | .broken _ => .null

/-- The items of a list. -/
def items? : Datum → Option (List Datum)
  | .value (.arr xs) => some (xs.map .value)
  | .list ds => some ds
  | _ => none

/-- The named parts; of JSON values only an object has some. -/
def parts? : Datum → Option (List (String × Datum))
  | .value (.obj fs) => some (fs.map fun f => (f.1, .value f.2))
  | .object as => some as
  | _ => none

/-- The data of a list of texts. -/
def texts (ts : List String) : Datum := .value (.arr (ts.map .str))

/-- A text or null. -/
def optionalText (t : Option String) : Json := t.elim .null .str

/-- The data of a finding. -/
def ofFinding (f : Finding) : Datum :=
  .object [("tool", .value (.str f.tool)), ("severity", .value f.severity.toJson),
    ("description", .value (.str f.description)), ("location", .value (.str f.location)),
    ("layman", .value (.str f.layman)), ("technical", .value (.str f.technical)),
    ("snippet", .value (optionalText f.snippet))]

/-- The data of a report. -/
def ofReport (r : Report) : Datum :=
  .object [("findings", .list (r.findings.map ofFinding)), ("score", .value (.int r.score)),
    ("interpretation", .value (.str r.interpretation)),
    ("contract_type", .value (.str r.contractType)),
    ("contract_description", .value (.str r.contractDescription)), ("logs", texts r.logs)]

/-- The kind of a value without length. -/
def kindName : Json → String
  | .null => "NoneType"
  | .bool _ => "bool"
  | .int _ => "int"
  | .float _ => "float"
  | .str _ => "str"
  | .arr _ => "list"
  | .obj _ => "dict"

/-- Why the length of a value cannot be told. -/
def noLengthReason (v : Json) : String :=
  "TypeError: object of type '" ++ kindName v ++ "' has no len()"

/-- The data of contract facts: the facts and the length of the code. -/
def ofContractInfo (i : ContractInfo) : Datum :=
  .object <|
    (i.toFields.map fun f => (f.1, .value f.2)) ++
      [("bytecode_size",
        match i.bytecode.length? with
        | some n => .value (.int n)
        | none => .broken (noLengthReason i.bytecode))]

end Datum

/-- The names of a field of a model. -/
structure FieldName where
  /-- The name inside. -/
  snake : String
  /-- The name outside. -/
  camel : String
  deriving DecidableEq, Repr

/-- A field of one word, which has one name. -/
def FieldName.word (s : String) : FieldName := ⟨s, s⟩

/-- Which of its names a field is written under. -/
inductive KeyStyle where
  /-- The names outside. -/
  | camel
  /-- The names inside. -/
  | snake
  deriving DecidableEq, Repr

/-- The name of a field in a style. -/
def FieldName.in (n : FieldName) : KeyStyle → String
  | .camel => n.camel
  | .snake => n.snake

/-- The part of that name. -/
def partOf? (ps : List (String × Datum)) (name : String) : Option Datum :=
  (ps.find? (·.1 == name)).map (·.2)

/-- The part of a field, and the name it was found under. -/
def FieldName.find? (n : FieldName) (ps : List (String × Datum)) : Option (String × Datum) :=
  match partOf? ps n.camel with
  | some d => some (n.camel, d)
  | none => (partOf? ps n.snake).map fun d => (n.snake, d)

/-- The checked value of a field that is required. -/
def required {α : Type} (ps : List (String × Datum)) (n : FieldName) (check : Datum → Checked α) :
    Checked α :=
  match n.find? ps with
  -- what is missing has its outer name, what cannot be read its inner one
  | none => .invalid [⟨[.field n.camel], .missing⟩]
  | some (_, .broken reason) => .invalid [⟨[.field n.snake], .unreadable reason⟩]
  | some (found, d) => (check d).under (.field found)

/-- The checked value of a field that has a default. -/
def optional {α : Type} (ps : List (String × Datum)) (n : FieldName) (default : α)
    (check : Datum → Checked α) : Checked α :=
  match n.find? ps with
  | none => .valid default
  | some _ => required ps n check

/-- Checks a value by a coercion of JSON values. -/
def coerced {α : Type} (f : Json → Except Problem α) (d : Datum) : Checked α := .ofExcept (f d.json)

/-- Checks the items of a list. -/
def listOf {α : Type} (check : Datum → Checked α) (d : Datum) : Checked (List α) :=
  match d.items? with
  | some ds => Checked.each check 0 ds
  | none => .invalid [⟨[], .notList⟩]

end ContractScan.Wire
