-- The settings of a router, what makes them valid, and why a configuration is refused. What is a
-- document and what is a log filter is for other readers to say; they come as parameters.
import KeyRoute.Halt
import KeyRoute.Text.Blank
import KeyRoute.Document.Toml.Basic

namespace KeyRoute

/-- The settings of a router; each has a default. -/
structure Config where
  /-- The service that remote clients are bound to; unset, the one of the channel. -/
  serviceName : Option String
  metricsEnabled : Bool
  /-- A log filter for the program around the router. -/
  logLevel : String
deriving DecidableEq

/-- Why the text of a file could not be had. -/
inductive ReadFault where
  | missing
  | isDirectory
  | notDirectory
  | nameTooLong
  | nulInName
  | notUnicode
deriving DecidableEq

def ReadFault.message : ReadFault → String
  | .missing => "No such file or directory (os error 2)"
  | .isDirectory => "Is a directory (os error 21)"
  | .notDirectory => "Not a directory (os error 20)"
  | .nameTooLong => "File name too long (os error 36)"
  | .nulInName => "file name contained an unexpected NUL byte"
  | .notUnicode => "stream did not contain valid UTF-8"

/-- Why a configuration is refused. -/
inductive ConfigFault where
  | unreadable (path : String) (cause : ReadFault)
  | notToml
  | mismatch (cause : Mismatch)
  | blankName
  | spacedName (name : String)
  | badLogLevel (level : String) (reason : String)
  /-- A fault of the configuration in a file. -/
  | inFile (path : String) (cause : ConfigFault)
deriving DecidableEq

/-- The messages of a fault, from the outermost to the first cause. -/
def ConfigFault.chain : ConfigFault → List String
  | .unreadable path cause =>
    ["Failed to read config file at '" ++ path ++ "'", cause.message]
  | .notToml => ["Failed to parse TOML", "toml syntax error"]
  | .mismatch cause => ["Failed to parse TOML", cause.message]
  | .blankName => ["router.service_name cannot be empty"]
  | .spacedName name => ["router.service_name '" ++ name ++ "' cannot contain whitespace"]
  | .badLogLevel level reason => ["invalid router.log_level '" ++ level ++ "': " ++ reason]
  | .inFile path cause => ("Invalid router configuration in '" ++ path ++ "'") :: cause.chain

/-- The readers that a configuration is left to. -/
structure Readers (F : Type) where
  /-- The entries of a TOML document. -/
  document : String → Option Toml.Entries
  /-- The log filter of a text, or what is wrong with the text. -/
  filter : String → Except (Halt String) F

namespace Config

variable {F : Type}

/-- The settings where nothing is set. -/
def default : Config := ⟨none, true, "info"⟩

/-- The log filter that a configuration asks for. -/
def filter (readers : Readers F) (config : Config) : Except (Halt ConfigFault) F :=
  (readers.filter config.logLevel).mapError (.map (.badLogLevel config.logLevel))

/-! ## Validity -/

/-- A service name is not blank and holds no blanks. -/
def checkName : Option String → Except ConfigFault Unit
  | none => .ok ()
  | some name =>
    if Text.allBlank name then .error .blankName
    else if Text.anyBlank name then .error (.spacedName name)
    else .ok ()

/-- A valid configuration has a sound service name, if any, and a sound log filter. -/
def validate (readers : Readers F) (config : Config) : Except (Halt ConfigFault) Unit := do
  (checkName config.serviceName).mapError .fault
  let _ ← config.filter readers

end Config

end KeyRoute
