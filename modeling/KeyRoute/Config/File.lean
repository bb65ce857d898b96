-- Loading a configuration from a file: its faults name the file, and success leaves a line in
-- the log.
import KeyRoute.Config.Toml
import KeyRoute.Log.Notice

namespace KeyRoute.Config

variable {F : Type}

/-- The valid configuration in the file at a path, where `read` gives the text of a file. -/
def loadWith (readers : Readers F) (read : String → Except ReadFault String) (path : String) :
    Except (Halt ConfigFault) Config :=
  match read path with
  | .error cause => .error (.fault (.unreadable path cause))
  | .ok text => (parse readers text).mapError (.map (.inFile path))

/-- Loads the configuration at a path, with the log of doing so. -/
def load (readers : Readers F) (read : String → Except ReadFault String) (path : String) :
    Except (Halt ConfigFault) Config × List Notice :=
  match loadWith readers read path with
  | .ok config => (.ok config, [.configLoaded path])
  | .error halt => (.error halt, [])

end KeyRoute.Config
