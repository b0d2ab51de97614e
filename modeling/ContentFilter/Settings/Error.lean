/-!
# Why settings are refused

The causes for which settings are refused, and the sentence that reports each.
-/

namespace ContentFilter

/-- Why settings are refused. -/
inductive SettingsError where
  /-- Filters could not nest at all. -/
  | noDepth
  /-- The text is no settings. -/
  | unreadableText
  /-- A source of settings cannot be read. -/
  | unreadableSource
  /-- The values from the sources are no settings. -/
  | unfitValues
  /-- The log is being received already. -/
  | logTaken
  deriving DecidableEq, Repr

/-- The sentence that reports why settings are refused. -/
def SettingsError.message : SettingsError → String
  | .noDepth => "compiler.max_depth must be at least 1"
  | .unreadableText => "Failed to parse YAML config"
  | .unreadableSource => "Failed to read config"
  | .unfitValues => "Failed to deserialize config"
  | .logTaken =>
    "Failed to initialize tracing: a global default trace dispatcher has already been set"

end ContentFilter
