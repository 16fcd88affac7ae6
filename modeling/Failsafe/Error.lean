import Failsafe.Decimal.Text
import Failsafe.Text.Quoted

/-!
# Errors

`SettingsError` is what reading and checking settings can fail with, `Error` what the operations of the
library can fail with. Each has one `message`.
-/

namespace Failsafe

/-- Why settings were refused. -/
inductive SettingsError where
  /-- The sources could not be read, or held values of the wrong type. -/
  | load (sources : List String) (reason : String)
  /-- A value outside its bounds. -/
  | invalidValue (field value context : String)
  | validation (reason : String)
deriving DecidableEq, Repr

namespace SettingsError

def kindName : SettingsError → String
  | load _ _ => "LoadError"
  | invalidValue _ _ _ => "InvalidValue"
  | validation _ => "ValidationError"

def message : SettingsError → String
  | load sources reason =>
    "Failed to load configuration from [" ++ String.intercalate ", " (sources.map Text.quoted) ++ "]: "
      ++ reason
  | invalidValue field value context =>
    "Invalid value '" ++ value ++ "' for field '" ++ field ++ "': " ++ context
  | validation reason => "Configuration validation failed: " ++ reason

end SettingsError

/-- Why an operation failed. -/
inductive Error where
  | componentNotFound (name : String)
  | duplicateComponent (name : String)
  | configuration (reason : String)
  | restartFailed (component reason : String)
  | invalidThreshold (resource : String) (warning critical : Float)
  | internal (reason : String)
deriving DecidableEq

namespace Error

def kindName : Error → String
  | componentNotFound _ => "ComponentNotFound"
  | duplicateComponent _ => "DuplicateComponent"
  | configuration _ => "ConfigurationError"
  | restartFailed _ _ => "RestartFailed"
  | invalidThreshold _ _ _ => "InvalidThreshold"
  | internal _ => "Internal"

def message : Error → String
  | componentNotFound name => "Component not found: " ++ name
  | duplicateComponent name => "Component already registered: " ++ name
  | configuration reason => "Configuration error: " ++ reason
  | restartFailed component reason => "Restart failed for " ++ component ++ ": " ++ reason
  | invalidThreshold resource warning critical =>
    "Invalid threshold for " ++ resource ++ ": warning " ++ Decimal.plain.write warning
      ++ " must be below critical " ++ Decimal.plain.write critical
  | internal reason => "Internal error: " ++ reason

/-- Refused settings as an error of the operation that needed them. -/
def ofSettings (error : SettingsError) : Error := .configuration error.message

end Error

end Failsafe
