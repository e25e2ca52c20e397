import CallRouting.Settings.Reading
import CallRouting.Toml.Document

/-!
# Settings from TOML

A settings text that is no TOML document, or whose values do not fit the settings, is
an error of configuration without further details; flaws of settings that could be
read are reported as such. Of a directory that is written as a list only the items
for its fields are looked at.
-/

namespace CallRouting.Settings

/-- What is looked at of an entry. -/
def relevant : String × Toml.Node → String × Toml.Node
  | ("directory", .list items) =>
    ("directory", .list (items.take RecordKind.directorySettings.width))
  | entry => entry

/-- The settings of a text, whether or not they have a flaw. -/
def ofTomlText? (text : String) : Option Settings := do
  let entries ← Toml.readDocument text
  let data ← (Toml.Node.table .opened (entries.map relevant)).toData?
  (ofData data).toOption

/-- The usable settings of a text. -/
def ofToml (text : String) : Except RoutingError Settings :=
  match ofTomlText? text with
  | some settings => settings.validate
  | none => .error (.configuration "invalid lb config")

end CallRouting.Settings
