/-!
# Failures of the configuration

Why there is no configuration to run with: its file cannot be read, its text is no configuration, or
a value in it is one the monitor cannot run with.
-/

namespace NodeWatch

/-- What a text lacks that is no configuration. -/
inductive ParseStage
  /-- It is no document of its format. -/
  | form
  /-- It is a document, but not of a configuration. -/
  | content
  deriving DecidableEq, Repr

/-- Why there is no configuration. -/
inductive ConfigError
  | loadFailed (path reason : String)
  | parseFailed (stage : ParseStage) (reason : String)
  | invalidValue (field reason : String)
  deriving DecidableEq, Repr

/-- The failure in words. -/
def ConfigError.message : ConfigError → String
  | loadFailed path reason => s!"Failed to load config from '{path}': {reason}"
  | parseFailed _ reason => s!"Failed to parse config: {reason}"
  | invalidValue field reason => s!"Invalid value for '{field}': {reason}"

end NodeWatch
