import Deskhand.CommandLine.Console

/-!
# Commands on settings

The settings are shown, with the secret ones masked, and changed one at a time. A change reads all settings
and keeps all of them again.
-/

namespace Deskhand.Errand

/-- Show the settings. -/
def showSettings : Errand Exit := do
  succeed [("data", .record (← store).settings.masked)]

/-- Change one of the settings that were read, and keep all of them. -/
def keepChange (name value : String) (settings : Settings) : Errand Exit :=
  match SettingName.ofName? name with
  | none => fail ("Unknown setting: " ++ name)
  | some field =>
    match settings.change field value with
    | .error refusal => fail ("Invalid value for " ++ name ++ ": " ++ refusal.message)
    | .ok settings => do
      saveSettings settings
      succeed [("message", .text (name ++ " updated"))]

/-- Change a setting. -/
def changeSetting (name value : String) : Errand Exit := do
  keepChange name value (← store).settings

end Deskhand.Errand
