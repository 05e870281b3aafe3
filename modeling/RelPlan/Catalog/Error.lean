import RelPlan.Json.Fault

/-!
# Errors in configuration files

A file that describes a schema or gives statistics may not be readable, may not be JSON of
the right shape, or may say something that makes no sense.
-/

namespace RelPlan

/-- Why a file yields no text. -/
inductive FileFailure where
  | missing
  | inputOutput
  | noDevice
  | denied
  | notDirectory
  | isDirectory
  | invalid
  | nameTooLong
  | tooManyLinks
  | notText
deriving DecidableEq

/-- The failure in words. -/
def FileFailure.message : FileFailure → String
  | missing => "No such file or directory (os error 2)"
  | inputOutput => "Input/output error (os error 5)"
  | noDevice => "No such device or address (os error 6)"
  | denied => "Permission denied (os error 13)"
  | notDirectory => "Not a directory (os error 20)"
  | isDirectory => "Is a directory (os error 21)"
  | invalid => "Invalid argument (os error 22)"
  | nameTooLong => "File name too long (os error 36)"
  | tooManyLinks => "Too many levels of symbolic links (os error 40)"
  | notText => "stream did not contain valid UTF-8"

/-- Why a configuration is refused. -/
inductive ConfigError where
  | file (path : String) (failure : FileFailure)
  | json (path : String) (fault : Json.Fault)
  | badTableName (name : String)
  | noDefaultRows
deriving DecidableEq

namespace ConfigError

/-- The error in words. -/
def message : ConfigError → String
  | file path failure => "Cannot read configuration file " ++ path ++ ": " ++ failure.message
  | json path fault => "Malformed JSON in " ++ path ++ ": " ++ fault.message
  | badTableName name => "Invalid schema: invalid table name '" ++ name ++ "'"
  | noDefaultRows => "Invalid statistics: default_rows must be positive"

/-- What lies behind the error, in words. -/
def source? : ConfigError → Option String
  | file _ failure => some failure.message
  | json _ fault => some fault.message
  | badTableName _ => none
  | noDefaultRows => none

end ConfigError

end RelPlan
