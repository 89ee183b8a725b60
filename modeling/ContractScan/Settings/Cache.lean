import ContractScan.Settings.Build

/-!
# The settings cache

Settings are built once and kept. A call gives what is kept, whatever its surroundings are by then; if
nothing is kept it builds from its surroundings and keeps the result. A failure is not kept.
-/

namespace ContractScan

/-- What is kept, if anything. -/
abbrev SettingsCache := Option Settings

/-- What a call finds around it: the environment, and the text of a dotenv file if there is one. -/
structure Surroundings where
  environment : List (String × String)
  dotenv : Option String := none

/-- An environment stands for surroundings without a dotenv file. -/
instance : Coe (List (String × String)) Surroundings where
  coe environment := { environment }

/-- A call for the settings, perhaps after the cache was cleared. -/
structure CacheCall where
  /-- Whether the cache is cleared before. -/
  clears : Bool
  /-- The surroundings at the time of the call. -/
  around : Surroundings

/-- The settings that the surroundings of a call give. -/
def CacheCall.build (c : CacheCall) : Except SettingsError Settings :=
  Settings.build { environment := c.around.environment, dotenv := c.around.dotenv }

/-- What a call gives, and what is kept after it. -/
def SettingsCache.call (kept : SettingsCache) (c : CacheCall) :
    Except SettingsError Settings × SettingsCache :=
  match if c.clears then none else kept with
  | some s => (.ok s, some s)
  | none =>
    match c.build with
    | .ok s => (.ok s, some s)
    | .error e => (.error e, none)

/-- What calls give, in order. -/
def SettingsCache.run (kept : SettingsCache) : List CacheCall → List (Except SettingsError Settings)
  | [] => []
  | c :: cs =>
    let (answer, kept) := SettingsCache.call kept c
    answer :: SettingsCache.run kept cs

end ContractScan
