import Failsafe.Redaction.Tree
import Failsafe.Settings.Layer
import Failsafe.Toml

/-!
# Loading settings

Settings are loaded for an environment (`development`, `production`, …) from a directory. There are three layers:
the file `resilience.toml`, the file `resilience.<environment>.toml`, and the process variables whose names begin
with `RESILIENCE__`, such as `RESILIENCE__RETRY__MAX_RETRIES`. A file that is missing gives nothing. The
result has been checked by `Settings.validate`.

Loading may be refused with an error, and it breaks off without one where a layer names a place in an array that
does not exist.
-/

namespace Failsafe

/-- Process variables, by name. -/
abbrev Variables := List (String × String)

/-- The texts of the files that exist, by path. -/
abbrev Files := String → Option String

/-- A step of loading: it gives a value, is refused with an error, or breaks off. -/
abbrev Loading := ExceptT SettingsError Option

/-- Settings that have been loaded and checked, and where they came from. -/
structure Configuration where
  settings : Settings
  environment : String
  directory : String

namespace Variables

def get? (vars : Variables) (name : String) : Option String := vars.lookup name

/-- The environment that the variables name, in lower case. -/
def environment (vars : Variables) : String :=
  Unicode.lowercase
    (((vars.get? "RESILIENCE_ENV").or (vars.get? "APP_ENV")).getD "development")

/-- The directory that settings are loaded from when none is asked for. -/
def directory (vars : Variables) : String := (vars.get? "RESILIENCE_CONFIG_DIR").getD "config"

/-- What the names of variables that hold settings begin with, in lower case. -/
def settingsMark : String := "resilience__"

/-- A name with a point for every two underscores. -/
def pointed : List Char → List Char
  | '_' :: '_' :: rest => '.' :: pointed rest
  | c :: rest => c :: pointed rest
  | [] => []

/-- The key of the setting that a variable holds: a path with points. -/
def settingKey? (name : String) : Option String :=
  let name := (Unicode.lowercase name).toList
  if settingsMark.toList.isPrefixOf name then
    some (String.ofList (pointed (name.drop settingsMark.length)))
  else none

/-- The value of a variable: a flag, a whole number, a double, or else a text. -/
def settingValue (s : String) : Json :=
  let word := Unicode.lowercase s
  if word = "true" then .bool true
  else if word = "false" then .bool false
  else match readInt64? s with
    | some n => .number (.int n)
    | none =>
      match Decimal.read? s with
      | some x => .ofFloat x
      | none => .text s

/-- The settings that variables hold. -/
def layer (vars : Variables) : Fields :=
  vars.foldl (fun layer (name, value) =>
    match settingKey? name with
    | some key => layer.set key (settingValue value)
    | none => layer) []

end Variables

namespace Configuration

/-- A file in a directory. -/
def joinPath (directory file : String) : String :=
  if directory = "" || directory.endsWith "/" then directory ++ file else directory ++ "/" ++ file

/-- The file for every environment, and the file for one. -/
def sources (directory environment : String) : List String :=
  [joinPath directory "resilience.toml", joinPath directory ("resilience." ++ environment ++ ".toml")]

/-- The name that a source may have instead, with the file type once more. -/
def fallback (source : String) : String := source ++ ".toml"

/-- The layer that a file gives; there is none where it is malformed. -/
def readLayer? (files : Files) (source : String) : Option Fields :=
  match (files source).or (files (fallback source)) with
  | none => some []
  | some text => Toml.read? text

/-- What the files give together; each is read and laid over the ones before it in turn. -/
def readLayers (files : Files) (sources : List String) : Loading Json :=
  sources.foldlM (fun tree source =>
    match readLayer? files source with
    | none => throw (.load sources "a file is malformed")
    | some layer => Layer.overlay? tree layer) (.object [])

/-- Loads settings from a directory for an environment, from files and, if asked to, from variables. -/
def load (files : Files) (vars : Variables) (directory : Option String) (environment : String)
    (withVariables : Bool) : Loading Configuration := do
  let directory := directory.getD vars.directory
  let sources := sources directory environment
  let tree ← readLayers files sources
  let tree ← if withVariables then Layer.overlay? tree vars.layer else pure tree
  match Settings.ofTree? tree with
  | none => throw (.load sources "a setting has the wrong type")
  | some settings =>
    liftExcept settings.validate
    return { settings, environment, directory }

/-- Settings that are at hand already, checked. -/
def ofSettings (vars : Variables) (settings : Settings) : Loading Configuration := do
  liftExcept settings.validate
  return { settings, environment := vars.environment, directory := "config" }

/-- The settings for people to read, with everything sensitive masked. -/
def shown (c : Configuration) : Json := Redaction.redact c.settings.toJson

end Configuration

end Failsafe
