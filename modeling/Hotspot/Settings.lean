/-
# Settings

Where the files are. The environment may name each of them; a name that is
absent or blank leaves the standard place.
-/

import Hotspot.FileSystem.Path
import Hotspot.Text.Blank

namespace Hotspot

/-- The values of the environment by name. -/
abbrev Environment := Text → Option Text

/-- Where the files are. -/
structure Settings where
  configFile : Path := Path.ofText "/data/misc/wifi/softap.conf"
  concurrencyFile : Path := Path.ofText "/vendor/etc/wifi/wifi_concurrency_cfg.txt"
  overlayFile : Path := Path.ofText "/etc/softap-configd/overlay.json"
  deriving DecidableEq, Repr

namespace Settings

/-- The variable with the place of the configuration. -/
def configFileName : Text := "SOFTAP_CONFIGD_AP_CONFIG_FILE"
/-- The variable with the place of the concurrency template. -/
def concurrencyFileName : Text := "SOFTAP_CONFIGD_CONCURRENCY_FILE"
/-- The variable with the place of the overlay. -/
def overlayFileName : Text := "SOFTAP_CONFIGD_OVERLAY_FILE"
/-- The variable with the log level. -/
def logLevelName : Text := "SOFTAP_CONFIGD_LOG_LEVEL"

/-- The path of a text, or a standard one if there is no text. -/
def pathOr (standard : Path) : Option Text → Path
  | none | some [] => standard
  | some t => Path.ofText t

/-- The settings of an environment. -/
def ofEnvironment (env : Environment) : Settings :=
  let standard : Settings := {}
  let place (name : Text) (path : Path) := pathOr path ((env name).map Text.trim)
  { configFile := place configFileName standard.configFile
    concurrencyFile := place concurrencyFileName standard.concurrencyFile
    overlayFile := place overlayFileName standard.overlayFile }

end Settings
end Hotspot
