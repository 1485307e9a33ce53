import Switchboard.Error
import Switchboard.Settings.Convert
import Switchboard.Settings.EnvFile
import Switchboard.Settings.File

/-!
# Loading settings

Settings come in layers, the later of which lie over the earlier: the file of defaults, the file of
the run mode, and the environment, to which a file of variables may add. The run mode is itself
taken from the environment. Settings that connections could not be run with are refused.

All of this is done by a reader of settings, the standard one unless another is named.
-/

namespace Switchboard.Settings

/-- The name of the file of variables. -/
def envFile : String := ".env"

/-- The name of the file of defaults. -/
def defaultFile : String := "config/default"

/-- The variable that names the run mode. -/
def modeVariable : String := "RUN_MODE"

/-- The name of the file of a run mode. -/
def modeFile (mode : String) : String := s!"config/{mode}"

/-- The environment with what the file of variables adds to it. -/
def environment (env : Environment) (files : List (String × String)) : Environment :=
  match files.lookup envFile with
  | some text => EnvFile.load env text
  | none => env

/-- The run mode of an environment. -/
def runMode (env : Environment) : String := (env.lookup modeVariable).getD "development"

section Readers

variable (env : Environment) (files : List (String × String))

/-- The settings of the file that a name asks for, if there is one. -/
def fileLayer (r : SettingsReader) (name : String) :
    Except SettingsFault (List (String × Setting)) :=
  match SettingsFile.find? r files name with
  | some file => file.layer r
  | none => .ok []

/-- The settings that an environment gives, in the order in which they are gone through. -/
def environmentLayer (r : SettingsReader) : List (String × Setting) :=
  r.order [Environment.origin] (Environment.layer env)

/-- The layers of settings, the lowest first. -/
def layers (r : SettingsReader) : Except SettingsFault (List (List (String × Setting))) := do
  let env := environment env files
  let defaults ← fileLayer files r defaultFile
  let ofMode ← fileLayer files r (modeFile (runMode env))
  return [defaults, ofMode, environmentLayer env r]

/-- The tree that layers make, each lying over those before it. -/
def gather (layers : List (List (String × Setting))) : Setting :=
  layers.foldl Setting.overlay .emptyTable

/-- The names of the files of settings that may be looked at in an environment. -/
def fileNames (r : SettingsReader := .standard) : List String :=
  [defaultFile, modeFile (runMode env)].flatMap fun name =>
    (SettingsFile.candidates r name).map Prod.fst

/-- Load the settings from an environment and files by name. -/
def load (r : SettingsReader := .standard) : Except Error Settings := do
  let layers ← (layers env files r).mapError .config
  let settings ← ((gather layers).toSettings r).mapError .config
  settings.websocket.validate
  return settings

end Readers

end Switchboard.Settings
