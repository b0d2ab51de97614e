import ContentFilter.Settings.Error
import ContentFilter.Stored.Forms
import ContentFilter.Yaml.Reading

/-!
# Settings from a text

Settings may be given as a text in YAML.  What it does not say is as usual.
-/

namespace ContentFilter.Settings

/-- The settings, if filters may nest at all. -/
def checked (s : Settings) : Except SettingsError Settings :=
  if s.isValid then .ok s else .error .noDepth

/-- The settings of a text. -/
def ofText (text : String) : Except SettingsError Settings :=
  match (Yaml.document? text).bind (read? Yaml.reading) with
  | some s => s.checked
  | none => .error .unreadableText

end ContentFilter.Settings
