-- The JSON form of a configuration. An unset service name is left out when written; what is
-- left out when read takes its default.
import KeyRoute.Config.Basic
import KeyRoute.Document.Json

namespace KeyRoute.Config

/-- The keys of a configuration in a document. -/
def serviceNameKey : String := "service_name"

def metricsEnabledKey : String := "metrics_enabled"

def logLevelKey : String := "log_level"

def toJson (config : Config) : Json :=
  .obj ((config.serviceName.map fun name => (serviceNameKey, Json.str name)).toList ++
    [(metricsEnabledKey, .bool config.metricsEnabled), (logLevelKey, .str config.logLevel)])

/-! ## Reading -/

def textOfJson : Json → Except Mismatch String
  | .str s => .ok s
  | other => .error (.wrongKind other.found .text)

/-- A service name may be null, which leaves it unset. -/
def nameOfJson : Json → Except Mismatch (Option String)
  | .null => .ok none
  | .str s => .ok (some s)
  | other => .error (.wrongKind other.found .text)

def flagOfJson : Json → Except Mismatch Bool
  | .bool value => .ok value
  | other => .error (.wrongKind other.found .boolean)

/-- A setting that may be left out. -/
def settingOfJson (read : Json → Except Mismatch α) (unset : α) :
    Option Json → Except Mismatch α
  | none => .ok unset
  | some value => read value

/-- A configuration from an object, its fields read in the order of their names; other keys
are ignored. -/
def ofJsonEntries (entries : List (String × Json)) : Except Mismatch Config := do
  let logLevel ←
    settingOfJson textOfJson default.logLevel (Json.valueAt? entries logLevelKey)
  let metricsEnabled ←
    settingOfJson flagOfJson default.metricsEnabled (Json.valueAt? entries metricsEnabledKey)
  let serviceName ←
    settingOfJson nameOfJson default.serviceName (Json.valueAt? entries serviceNameKey)
  return ⟨serviceName, metricsEnabled, logLevel⟩

/-- A configuration from its settings by position: service name, metrics, log level. -/
def ofJsonItems (items : List Json) : Except Mismatch Config := do
  let serviceName ← settingOfJson nameOfJson default.serviceName items[0]?
  let metricsEnabled ← settingOfJson flagOfJson default.metricsEnabled items[1]?
  let logLevel ← settingOfJson textOfJson default.logLevel items[2]?
  if 3 < items.length then .error (.tooManyElements items.length)
  else return ⟨serviceName, metricsEnabled, logLevel⟩

def ofJson : Json → Except Mismatch Config
  | .obj entries => ofJsonEntries entries
  | .arr items => ofJsonItems items
  | other => .error (.wrongKind other.found .routerConfig)

theorem ofJson_toJson (config : Config) : ofJson config.toJson = .ok config := by
  obtain ⟨name, metrics, level⟩ := config
  cases name <;> rfl

end KeyRoute.Config
