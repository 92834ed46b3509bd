import Decomment.Command.World

/-!
# The commands about settings

They tell where the settings are, tell one setting, and change one.
-/

namespace Decomment.Command

/-- Tells where the settings are. -/
def configPath (w : World) : Answer :=
  .say do
    return (← w.env.settingsPath) ++ "\n"

/-- The setting with a name, which has to be known. -/
def settingKey (name : String) : Except Error Settings.Key :=
  match Settings.Key.ofName? name with
  | some key => .ok key
  | none => .error (.unknownSetting name)

/-- Tells one setting. -/
def configGet (w : World) (name : String) : Answer :=
  .say do
    let settings ← w.settings
    let key ← settingKey name
    return settings.get key ++ "\n"

/-- The changes that save a text as the settings. -/
def saveEffects (path : String) (text : List Char) : List Effect :=
  [.makeDirectories (Path.parent path), .write path (.text text)]

/-- Saves settings. The directory for them is made before their text is. -/
def save (toml : Toml.Codec) (path : String) (settings : Settings) : Answer :=
  match settings.toText toml with
  | .ok text => { actions := (saveEffects path text).map .change }
  | .error e => { actions := [.change (.makeDirectories (Path.parent path))], error? := some e }

/-- Changes one setting, saves all, and says so. -/
def configSet (w : World) (name value : String) : Answer :=
  .ofExcept do
    let settings ← w.settings
    let key ← settingKey name
    let settings ← settings.set key value
    let path ← w.env.settingsPath
    return (save w.lib.toml path settings).andThen [.say s!"{name} = {value}\n"]

end Decomment.Command
