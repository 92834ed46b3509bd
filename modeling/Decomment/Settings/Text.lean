import Decomment.Error
import Decomment.Settings
import Decomment.Toml.Codec

/-!
# Settings as text

The text of a settings file, and the settings that such a text holds.
-/

namespace Decomment.Settings

/-- The settings that a text holds. -/
def ofText (toml : Toml.Codec) (text : List Char) : Except Error Settings :=
  match (toml.parse? text).bind ofFields? with
  | some settings => .ok settings
  | none => .error .malformedSettings

/-- The text that settings are saved as. -/
def toText (toml : Toml.Codec) (settings : Settings) : Except Error (List Char) :=
  match toml.print? settings.toFields with
  | some text => .ok text
  | none => .error .unwritableSettings

end Decomment.Settings
