import Gamebook.Files
import Gamebook.Form.Settings

/-!
# Gamebook — settings from a file

* `Settings.load` — the settings in the file that a path leads to; the usual
  ones if there is no such file.
-/

namespace Gamebook

/-- The settings that a text holds. -/
def Settings.ofText (text : String) : Except SettingsError Settings :=
  match Json.ofText Settings.reader text with
  | .ok s => .ok s
  | .error cause => .error (.malformed cause.message)

/-- The settings in the file that a path leads to. -/
def Settings.load (look : Lookup) (path : String) : Except SettingsError Settings :=
  if look.has path then
    match look.read path with
    | .ok text => ofText text
    | .error cause => .error (.unreadable cause.message)
  else .ok {}

end Gamebook
