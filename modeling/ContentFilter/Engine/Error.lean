import ContentFilter.Settings.Error
import ContentFilter.Store.Error

/-!
# Why the engine refuses

The engine passes on why its parts refuse, and says which part it was.
-/

namespace ContentFilter

/-- Why the engine refuses. -/
inductive EngineError where
  | settings (cause : SettingsError)
  | store (cause : StoreError)
  | filter (cause : FilterError)
  /-- No filter is stored under the id. -/
  | filterNotFound (id : String)
  deriving DecidableEq, Repr

/-- The sentence that reports why the engine refuses. -/
def EngineError.message : EngineError → String
  | .settings cause => "Configuration error: " ++ cause.message
  | .store cause => "Repository error: " ++ cause.message
  | .filter cause => "Compiler error: " ++ cause.message
  | .filterNotFound id => "Content filter not found: " ++ id

end ContentFilter
