import ContractScan.Settings.Basic
import ContractScan.Settings.Dotenv
import ContractScan.Text.Case
import ContractScan.Text.Quoted
import ContractScan.Wire.Coerce

/-!
# Building settings -- from given values, the environment and a dotenv text

A setting is taken from the first place that names it: the given values, the environment, the dotenv
text, the defaults. Names count without regard to case. Lists are written as JSON in the environment and
in a dotenv text. After the values are taken for what they should be, the rules of the settings apply:
at least one node that is not blank, a known level, no negative number of lines or transactions.
-/

namespace ContractScan

open ContractScan.Text ContractScan.Wire

/-- Where settings come from. -/
structure SettingsSources where
  /-- Given values. -/
  given : Fields := []
  /-- The environment. -/
  environment : List (String × String) := []
  /-- A dotenv text. -/
  dotenv : Option String := none

/-- Why there are no settings. -/
inductive SettingsError where
  /-- A list in the environment or the dotenv text is not written as JSON. -/
  | unreadable
  /-- Values are not what they should be. -/
  | invalid (issues : List Issue)

namespace Settings

/-- The names of the settings that are lists. -/
def listNames : List String := ["rpc_urls", "cors_origins"]

/-- The names of the settings, in order. -/
def names : List String :=
  ["app_env", "app_debug", "log_level", "rpc_urls", "etherscan_api_url", "chain_id",
   "etherscan_api_key", "http_timeout_seconds", "recent_tx_limit", "snippet_context_lines",
   "cors_origins"]

/-- A name in lower case. -/
def lowerName (s : String) : String := String.ofList (lower s.toList)

/-- Fields with their names in lower case; of equal names the last counts. -/
def lowerNames (fs : Fields) : Fields := fs.foldl (fun acc f => Fields.insert acc (lowerName f.1) f.2) []

/-- The value of a setting that is written as text; none if it does not count as written. -/
def writtenValue (name text : String) : Except SettingsError (Option Json) :=
  if listNames.contains name then
    match Json.read text.toList with
    | .ok .null => .ok none
    | .ok v => .ok (some v)
    | .error _ => .error .unreadable
  else .ok (some (.str text))

/-- The settings that texts name, in the order of the settings. -/
def writtenValues (texts : Fields) : List String → Except SettingsError Fields
  | [] => .ok []
  | n :: ns => do
    let v ←
      match (Fields.find? texts n).bind Json.text? with
      | some t => writtenValue n t
      | none => .ok none
    let rest ← writtenValues texts ns
    return (v.map fun v => (n, v)).toList ++ rest

/-- The names that a dotenv text may hold besides the settings: blank values and names that begin with
the name of a list. -/
def isIgnored (name : String) (value : Json) : Bool :=
  !value.isTruthy || listNames.any fun l => l.toList.isPrefixOf name.toList

/-- The named texts of a dotenv text that are no settings. -/
def unknownTexts (texts : Fields) : Fields :=
  texts.filter fun f => !names.contains f.1 && !isIgnored f.1 f.2

/-- Texts as values. -/
def textFields (texts : List (String × Option String)) : Fields :=
  texts.map fun t => (t.1, t.2.elim .null .str)

/-- One set of fields with another put over it. -/
def overlay (below above : Fields) : Fields := above.foldl (fun acc f => Fields.insert acc f.1 f.2) below

/-- The values of all sources, the stronger over the weaker. -/
def gather (s : SettingsSources) : Except SettingsError Fields := do
  let environment ← writtenValues (lowerNames (textFields (s.environment.map fun e => (e.1, some e.2)))) names
  let texts := lowerNames (textFields (s.dotenv.elim [] (Dotenv.read s.environment)))
  let dotenv ← writtenValues texts names
  -- an unknown name of the dotenv text is kept, so that it is refused later
  return overlay (overlay (dotenv ++ unknownTexts texts) environment) (lowerNames s.given)

/-- The levels that can be logged. -/
def levelNames : List String :=
  ["CRITICAL", "FATAL", "ERROR", "WARN", "WARNING", "INFO", "DEBUG", "NOTSET"]

/-- A level in upper case, if there is one of that name. -/
def checkLevel (v : String) : Except Problem String :=
  let level := String.ofList (upper v.toList)
  if levelNames.contains level then .ok level
  else .error (.rule ("log_level must be a logging level name, got " ++ quoted v))

/-- The nodes that are not blank, trimmed; at least one. -/
def checkUrls (urls : List String) : Except Problem (List String) :=
  let kept := (urls.map trimmed).filter (· != "")
  if kept.isEmpty then .error (.rule "rpc_urls must contain at least one JSON-RPC endpoint")
  else .ok kept

/-- A number that must not be negative. -/
def checkCount (name : String) (n : Int) : Except Problem Int :=
  if n < 0 then .error (.rule (name ++ " must not be negative")) else .ok n

/-- The checked value of a setting; without a value, the default. -/
def setting {α : Type} (fs : Fields) (name : String) (default : α) (check : Json → Checked α) :
    Checked α :=
  match Fields.find? fs name with
  | none => .valid default
  | some v => (check v).under (.field name)

/-- The settings that values give, without regard to unknown names. -/
def checkKnown (fs : Fields) : Checked Settings :=
  let d : Settings := {}
  Settings.mk
    <$> setting fs "app_env" d.appEnv (.ofExcept ∘ asText)
    <*> setting fs "app_debug" d.appDebug (.ofExcept ∘ asBool)
    <*> setting fs "log_level" d.logLevel (fun v => (Checked.ofExcept (asText v)).andThen checkLevel)
    <*> setting fs "rpc_urls" d.rpcUrls (fun v => (asTexts v).andThen checkUrls)
    <*> setting fs "etherscan_api_url" d.explorerUrl (.ofExcept ∘ asText)
    <*> setting fs "chain_id" d.chainId (.ofExcept ∘ asInteger)
    <*> setting fs "etherscan_api_key" d.explorerKey (.ofExcept ∘ asOptionalText)
    <*> setting fs "http_timeout_seconds" d.timeoutSeconds (.ofExcept ∘ asNumber)
    <*> setting fs "recent_tx_limit" d.recentTxLimit
      (fun v => (Checked.ofExcept (asInteger v)).andThen (checkCount "recent_tx_limit"))
    <*> setting fs "snippet_context_lines" d.snippetContextLines
      (fun v => (Checked.ofExcept (asInteger v)).andThen (checkCount "snippet_context_lines"))
    <*> setting fs "cors_origins" d.corsOrigins asTexts

/-- The issues of unknown names. -/
def unknownIssues (fs : Fields) : List Issue :=
  (fs.filter fun f => !names.contains f.1).map fun f => ⟨[.field f.1], .unknownField⟩

/-- The settings that values give. -/
def ofFields (fs : Fields) : Except SettingsError Settings :=
  match checkKnown fs, unknownIssues fs with
  | .valid s, [] => .ok s
  | c, unknown => .error (.invalid (c.issues ++ unknown))

/-- The settings that sources give. -/
def build (s : SettingsSources) : Except SettingsError Settings := do
  ofFields (← gather s)

/-- The settings as named values. -/
def toJson (s : Settings) : Json :=
  .obj [("app_env", .str s.appEnv), ("app_debug", .bool s.appDebug), ("log_level", .str s.logLevel),
    ("rpc_urls", .arr (s.rpcUrls.map .str)), ("etherscan_api_url", .str s.explorerUrl),
    ("chain_id", .int s.chainId), ("etherscan_api_key", s.explorerKey.elim .null .str),
    ("http_timeout_seconds", .float s.timeoutSeconds), ("recent_tx_limit", .int s.recentTxLimit),
    ("snippet_context_lines", .int s.snippetContextLines),
    ("cors_origins", .arr (s.corsOrigins.map .str)), ("is_production", .bool s.isProduction)]

end Settings

end ContractScan
