-- Configurations in TOML: the value at the key `router` of a document. What is left out takes
-- its default; every other key is ignored. Tables are read in the order of their keys, and the
-- first thing that is wrong decides.
import KeyRoute.Config.Json
import KeyRoute.Filter.Basic
import KeyRoute.Document.Toml.Readable
import KeyRoute.Document.Toml.Reader

namespace KeyRoute

/-- The readers of this library. -/
def Readers.standard : Readers Filter where
  document := Toml.parse?
  filter text := (Filter.parse text).mapError (.map Filter.Fault.message)

namespace Config

variable {F : Type}

/-! ## Reading the settings -/

def textOfToml : Toml → Except Mismatch String
  | .string s => .ok s
  | other => .error (other.mismatch .text)

def nameOfToml (value : Toml) : Except Mismatch (Option String) := some <$> textOfToml value

def flagOfToml : Toml → Except Mismatch Bool
  | .boolean value => .ok value
  | other => .error (other.mismatch .boolean)

/-- A configuration with one entry of a table read into it. -/
def withEntry (config : Config) (entry : String × Toml) : Except Mismatch Config :=
  if entry.1 = logLevelKey then
    (textOfToml entry.2).map fun level => { config with logLevel := level }
  else if entry.1 = metricsEnabledKey then
    (flagOfToml entry.2).map fun flag => { config with metricsEnabled := flag }
  else if entry.1 = serviceNameKey then
    (nameOfToml entry.2).map fun name => { config with serviceName := name }
  else
    entry.2.passOver.map fun _ => config

/-- The settings of a table. -/
def ofTomlEntries (entries : Toml.Entries) : Except Mismatch Config :=
  entries.foldlM withEntry default

/-- A setting that may be left out. -/
def settingOfToml (read : Toml → Except Mismatch α) (unset : α) :
    Option Toml → Except Mismatch α
  | none => .ok unset
  | some value => read value

/-- The settings by position: service name, metrics, log level. Further items are not looked at. -/
def ofTomlItems (items : List Toml) : Except Mismatch Config := do
  let serviceName ← settingOfToml nameOfToml default.serviceName items[0]?
  let metricsEnabled ← settingOfToml flagOfToml default.metricsEnabled items[1]?
  let logLevel ← settingOfToml textOfToml default.logLevel items[2]?
  return ⟨serviceName, metricsEnabled, logLevel⟩

/-- The settings of a value. A date or time is taken for a table without any of them. -/
def ofToml : Toml → Except Mismatch Config
  | .table _ entries => ofTomlEntries entries
  | .array items => ofTomlItems items
  | .tables elements => ofTomlItems (elements.map (.table .header))
  | .moment => .ok default
  | other => .error (other.mismatch .routerConfig)

/-! ## Reading a document -/

/-- The key of the settings in a document. -/
def routerKey : String := "router"

/-- The settings after one more entry of a document. -/
def afterEntry (config : Config) (entry : String × Toml) : Except Mismatch Config :=
  if entry.1 = routerKey then ofToml entry.2 else entry.2.passOver.map fun _ => config

/-- The settings of a document, if it has some and else the defaults. -/
def ofDocument (entries : Toml.Entries) : Except Mismatch Config :=
  entries.foldlM afterEntry default

/-- The settings that a text holds, valid or not. A document that has something wrong and cannot
even be read as a plain one is no TOML. -/
def decode (readers : Readers F) (text : String) : Except ConfigFault Config :=
  match readers.document text with
  | none => .error .notToml
  | some entries =>
    match ofDocument entries with
    | .ok config => .ok config
    | .error cause =>
      if Toml.entriesReadable entries then .error (.mismatch cause) else .error .notToml

/-- The valid configuration of a text. -/
def parse (readers : Readers F) (text : String) : Except (Halt ConfigFault) Config := do
  let config ← (decode readers text).mapError .fault
  config.validate readers
  return config

end Config

end KeyRoute
