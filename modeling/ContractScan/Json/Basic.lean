import ContractScan.Number.Binary64

/-!
# JSON values

The value type of every answer that comes from outside, and the look-ups on it. Whole numbers keep all
their digits; a number with a fraction or an exponent is a binary64. An object is a list of named
values in order of first appearance; reading a text puts a repeated name where it stood first and keeps
its last value (`insert`).
-/

namespace ContractScan

open ContractScan.Number

/-- A JSON value. -/
inductive Json where
  | null
  | bool (b : Bool)
  /-- A number written without fraction and exponent. -/
  | int (n : Int)
  /-- Any other number. -/
  | float (x : Binary64)
  | str (s : String)
  | arr (items : List Json)
  /-- Named values, in order. -/
  | obj (fields : List (String × Json))
  deriving Inhabited

/-- Named values, in order, each name once. -/
abbrev Fields := List (String × Json)

namespace Fields

/-- The value of a name. -/
def find? (fs : Fields) (name : String) : Option Json :=
  match fs with
  | [] => none
  | (k, v) :: rest => if k = name then some v else find? rest name

/-- Gives a name a value: in its place if it is there, else at the end. -/
def insert (fs : Fields) (name : String) (v : Json) : Fields :=
  match fs with
  | [] => [(name, v)]
  | (k, w) :: rest => if k = name then (k, v) :: rest else (k, w) :: insert rest name v

/-- Whether a name has a value. -/
def has (fs : Fields) (name : String) : Bool := (find? fs name).isSome

/-- A name that was just given a value has that value. -/
theorem find?_insert_self (fs : Fields) (name : String) (v : Json) :
    find? (insert fs name v) name = some v := by
  induction fs with
  | nil => simp [insert, find?]
  | cons f rest ih =>
    obtain ⟨k, w⟩ := f
    by_cases h : k = name <;> simp [insert, find?, h, ih]

/-- Giving one name a value leaves the other names as they were. -/
theorem find?_insert_of_ne {name other : String} (fs : Fields) (v : Json) (h : other ≠ name) :
    find? (insert fs name v) other = find? fs other := by
  induction fs with
  | nil => simp [insert, find?, Ne.symm h]
  | cons f rest ih =>
    obtain ⟨k, w⟩ := f
    by_cases hk : k = name
    · subst hk; simp [insert, find?, Ne.symm h]
    · by_cases ho : k = other
      · have hn : other ≠ name := h
        subst ho; simp [insert, find?, hn]
      · simp [insert, find?, hk, ho, ih]

end Fields

namespace Json

/-- What counts as present: everything but null, false, zero and what is empty. -/
def isTruthy : Json → Bool
  | .null => false
  | .bool b => b
  | .int n => n != 0
  | .float x => !x.isZero
  | .str s => s != ""
  | .arr xs => !xs.isEmpty
  | .obj fs => !fs.isEmpty

/-- Whether the value is this text. -/
def isText (v : Json) (t : String) : Bool :=
  match v with
  | .str s => s == t
  | _ => false

/-- The text, if the value is one. -/
def text? : Json → Option String
  | .str s => some s
  | _ => none

/-- The fields, if the value is an object. -/
def fields? : Json → Option Fields
  | .obj fs => some fs
  | _ => none

/-- Whether the value is an object. -/
def isObject : Json → Bool
  | .obj _ => true
  | _ => false

/-- The value of a field, null if the object does not have it; only an object has fields. -/
def field? (v : Json) (name : String) : Option Json :=
  match v with
  | .obj fs => some ((Fields.find? fs name).getD .null)
  | _ => none

/-- The number of characters, items or fields; other values have no length. -/
def length? : Json → Option Nat
  | .str s => some s.length
  | .arr xs => some xs.length
  | .obj fs => some fs.length
  | _ => none

/-- The value if it counts as present, else the other one. -/
def orElse (v w : Json) : Json := if v.isTruthy then v else w

/-- The text of a value is the value. -/
theorem text?_eq_some_iff {v : Json} {t : String} : v.text? = some t ↔ v = .str t := by
  cases v <;> simp [text?]

/-- Being this text is being the value of it. -/
theorem isText_iff {v : Json} {t : String} : v.isText t = true ↔ v = .str t := by
  cases v <;> simp [isText]

/-- A text, or a value that counts as absent. -/
def IsTextOrAbsent (v : Json) : Prop := v.isTruthy = true → ∃ t, v = .str t

/-- Put in place of what is absent, a text makes a text of exactly the values that are one or are
absent. -/
theorem orElse_eq_str_iff (v : Json) (t : String) :
    (∃ u, v.orElse (.str t) = .str u) ↔ v.IsTextOrAbsent := by
  by_cases h : v.isTruthy = true
  · simp [orElse, IsTextOrAbsent, h]
  · simp [orElse, IsTextOrAbsent, h]

end Json

end ContractScan
