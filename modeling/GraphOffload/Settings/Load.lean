import GraphOffload.Failure
import GraphOffload.Settings.Environment
import GraphOffload.Toml.Text

/-!
# Loading settings

Settings come from a file, if there is one, and from the environment, which overrides the file.

## Main definitions

* `GraphOffload.SettingsFile` : the file that settings are loaded from.
* `GraphOffload.Settings.ofToml?` : the settings of a TOML text.
* `GraphOffload.Settings.load` : the settings of a file under an environment, if they are sound.
-/

namespace GraphOffload

/-- The file that settings are loaded from. -/
inductive SettingsFile
  | missing (path : String)
  | directory
  | content (bytes : Bytes)

namespace Settings

/-- A section of a TOML document, the default one if it is left out. A section may be given as an array
of settings in order; what follows the last setting is passed over. -/
def readSection {α : Type} (decode : Json.Decoder α) (default : α) (names : List (List String))
    (members : List (String × Toml)) (name : String) : Option α :=
  match members.lookup name with
  | none => some default
  | some (.array items) => decode none (Toml.array (items.take names.length)).toDocument
  | some value => decode none value.toDocument

/-- The settings of a TOML text. -/
def ofToml? (text : String) : Option Settings := do
  let members ← Toml.read text
  return {
    storage := ← readSection StorageSettings.decode {} StorageSettings.names members "storage"
    service := ← readSection ServiceSettings.decode {} ServiceSettings.names members "build_service"
    remote := ← readSection RemoteSettings.decode {} RemoteSettings.names members "remote_build"
    transfer := ← readSection TransferSettings.decode {} TransferSettings.names members "transfer"
    log := ← readSection LogSettings.decode {} LogSettings.names members "logging" }

/-- The settings of a file. -/
def ofFile : SettingsFile → Except Failure Settings
  | .missing path => .error (.settings (.fileMissing path))
  | .directory => .error (.device Fault.directory)
  | .content bytes => match Utf8.text? bytes with
    | none => .error (.device Fault.notText)
    | some text => match ofToml? text with
      | none => .error (.settings .malformed)
      | some settings => .ok settings

/-- The settings of a file, or the default ones without a file, under an environment; refused if
something is wrong with them. -/
def load (file : Option SettingsFile) (environment : Environment) : Except Failure Settings := do
  let stored ← match file with
    | some file => ofFile file
    | none => .ok {}
  let settings := stored.override environment
  match settings.fault? with
  | some fault => .error (.settings fault)
  | none => return settings

end Settings

end GraphOffload
