import ElementCode.Config
import ElementCode.FileTree
import ElementCode.Yaml

/-!
# Configuration files

A configuration file is YAML; an empty one gives the defaults.
-/

namespace ElementCode

/-- Why a configuration file gives no configuration. -/
inductive LoadError where
  /-- What it holds is refused. -/
  | refused (e : ConfigError)
  /-- It cannot be read. -/
  | unreadable (e : ReadError)
  /-- A scalar has no value. -/
  | worthless (e : Yaml.Error)
  /-- What it holds is refused, but holds a number that is too long to be shown. -/
  | unshowable

/-- The error for a report on what a file holds. -/
def LoadError.ofReport : SettingError → LoadError
  | .refused e => refused e
  | .unshowable => unshowable

/-- The text of an error. -/
def LoadError.message : LoadError → String
  | refused e => e.message
  | unreadable e => e.message
  | worthless e => e.message
  | unshowable => SettingError.unshowable.message

namespace Config

/-- The configuration that the text of a file gives; `path` names the file in messages. -/
def ofText (path text : String) : Except LoadError Config :=
  match Yaml.read text with
  | .ok root => (ofRoot root).mapError .ofReport
  | .error .invalid => .error (.refused (.notYaml path))
  | .error e => .error (.worthless e)

/-- The configuration in a file. -/
def load (t : FileTree) (path : String) : Except LoadError Config :=
  match t.readText (.ofString path) with
  | .ok text => ofText path text
  | .error e => .error (.unreadable e)

end Config

end ElementCode
