import ContentFilter.Query.Context

/-!
# Settings

The settings of the engine, and the targets of its log.
-/

namespace ContentFilter

/-- The settings of the engine. -/
structure Settings where
  options : FilterOptions
  /-- The vocabularies that count as fields though users cannot edit them. -/
  excludedVocabularies : List String
  logLevel : String
  deriving DecidableEq, Repr, Inhabited

namespace Settings

/-- The settings unless said otherwise. -/
def standard : Settings := ⟨.standard, [], "info"⟩

/-- Whether filters may nest at all. -/
def isValid (s : Settings) : Bool := s.options.maxDepth != 0

/-- The parts of the engine that write to the log. -/
def logTargets : List String :=
  ["newsfilter_sdk", "newsfilter_repository", "newsfilter_compiler", "newsfilter_core"]

/-- The directives that make every part of the engine log at a level. -/
def logDirectives (level : String) : String :=
  ",".intercalate (logTargets.map fun t => t ++ "=" ++ level)

end Settings
end ContentFilter
