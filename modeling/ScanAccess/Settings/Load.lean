import ScanAccess.Action
import ScanAccess.Settings.Library

/-! # Loading settings

All settings are loaded by making an instance of their class, and logged as they are then.
-/

namespace ScanAccess.Settings

/-- The event of loaded settings, of which the spelling is given. -/
def loadedEvent (spelling : String) : Log.Event :=
  { logger := "huskyci_token.settings"
    level := Log.Level.info
    message := "token settings loaded: " ++ spelling }

/-- Loads all settings some calls deep and logs them, after what the library logged. -/
def load (library : Library) (calls : Nat) (env : Environment) (file : Option String) :
    Logged AllSettings :=
  let built := library.buildAll calls env file
  match built.result with
  | .error error => { result := .error (.settings error), events := built.events }
  | .ok settings =>
    { result := .ok settings
      events := built.events ++ [loadedEvent (library.spelling settings)] }

end ScanAccess.Settings
