import ContractScan.Json.Reader
import ContractScan.Json.Writer
import ContractScan.Text.Lines

/-!
# Source bundles -- several files in one text

A contract of several files is published as one text: a JSON object whose field `sources` gives each
path an object with the file's `content`, inside one more pair of braces. `flatten` puts the contents one
after the other, parted by line feeds, in the order of the paths; a text that is no such bundle stays as
it is. `bundle` writes the text of given files.
-/

namespace ContractScan.Source

open ContractScan.Text

/-- The content of one entry: empty if it is missing or counts as absent. -/
def contentOf? (entry : Json) : Option (List Char) :=
  match entry with
  | .obj fs =>
    let v := (Fields.find? fs "content").getD .null
    if v.isTruthy then v.text?.map String.toList else some []
  | _ => none

/-- The contents of all entries; none if an entry has no content to give. -/
def contentsOf? : Fields → Option (List (List Char))
  | [] => some []
  | (_, entry) :: rest => do
    let c ← contentOf? entry
    let cs ← contentsOf? rest
    return c :: cs

/-- The entries of the object that a text writes. -/
def sourcesOf? (cs : List Char) : Option Fields :=
  match Json.read cs with
  | .ok (.obj fs) => (Fields.find? fs "sources").bind Json.fields?
  | _ => none

/-- The joined contents of a bundle; none if the text is no bundle. -/
def unbundle? (cs : List Char) : Option (List Char) :=
  if ['\x7b', '\x7b'].isPrefixOf cs then
    (sourcesOf? (cs.drop 1).dropLast).bind fun fs => (contentsOf? fs).map joinLines
  else none

/-- The text to scan: the joined contents of a bundle, any other text unchanged. -/
def flatten (source : String) : String :=
  match unbundle? source.toList with
  | some cs => String.ofList cs
  | none => source

/-- The object of given files, each a path and its content. -/
def bundleValue (files : List (String × String)) : Json :=
  .obj [("language", .str "Solidity"),
    ("sources", .obj (files.map fun f => (f.1, .obj [("content", .str f.2)])))]

/-- The bundle of given files. -/
def bundle (files : List (String × String)) : String :=
  String.ofList ('\x7b' :: (Json.write (bundleValue files) ++ ['\x7d']))

end ContractScan.Source
