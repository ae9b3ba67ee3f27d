import ElementCode.Code
import ElementCode.Text.Blank
import ElementCode.Text.LowerCase
import ElementCode.Value.Display

/-!
# Configuration

The settings of a preview and how they are read from a mapping.  Keys that are not settings are
ignored; of several invalid settings the first in a fixed order is reported.  The report shows the
setting, which fails for a number with too many digits.
-/

namespace ElementCode

/-- The settings of a preview. -/
structure Config where
  /-- How constructors are named. -/
  prefixMode : PrefixMode := .bare
  /-- Whether to dump the parsed document. -/
  showDetails : Bool := false
  /-- Whether to write the HTML. -/
  htmlPreview : Bool := true
  deriving DecidableEq, Repr, Inhabited

/-- What a setting can be given as: a prefix mode itself, or a plain value. -/
inductive Setting where
  | mode (m : PrefixMode)
  | plain (v : Value)
  deriving Inhabited

/-- A setting as messages show it. -/
def Setting.display : Setting → String
  | mode .bare => "<PrefixMode.BARE: 'bare'>"
  | mode .namespaced => "<PrefixMode.NAMESPACED: 'namespaced'>"
  | plain v => v.display

/-- Whether a setting can be shown in a message. -/
def Setting.isShowable : Setting → Bool
  | mode _ => true
  | plain v => v.isShowable

/-- Why a configuration is refused. -/
inductive ConfigError where
  /-- The prefix mode is not one of the modes. -/
  | unknownMode (given : Setting)
  /-- A switch is neither true nor false. -/
  | notSwitch (key : String) (given : Setting)
  /-- The file does not hold a mapping. -/
  | notMapping
  /-- The file is not YAML; what the reader of YAML says about it is left out. -/
  | notYaml (path : String)

/-- The text of a refusal. -/
def ConfigError.message : ConfigError → String
  | unknownMode given =>
    "prefix_mode must be one of " ++ ", ".intercalate (PrefixMode.all.map PrefixMode.word) ++
      ", got " ++ given.display
  | notSwitch key given => key ++ " must be true or false, got " ++ given.display
  | notMapping => "Config root must be a mapping with defined fields."
  | notYaml path => "Invalid YAML in " ++ path

/-- Whether the text of a refusal can be written. -/
def ConfigError.isShowable : ConfigError → Bool
  | unknownMode given | notSwitch _ given => given.isShowable
  | notMapping | notYaml _ => true

/-- What is reported about a configuration that is refused. -/
inductive SettingError where
  /-- The refusal. -/
  | refused (e : ConfigError)
  /-- That a number in the refused setting is too long to be shown. -/
  | unshowable

/-- The text of a report. -/
def SettingError.message : SettingError → String
  | refused e => e.message
  | unshowable => Display.digitLimitText none

/-- The report on a refusal: the refusal itself, unless its text cannot be written. -/
def ConfigError.report (e : ConfigError) : SettingError :=
  if e.isShowable then .refused e else .unshowable

/-- The mode that a word names, in any case and with white space around it. -/
def PrefixMode.ofWord? (s : String) : Option PrefixMode :=
  let word := Text.lower (Text.trim s.toList)
  PrefixMode.all.find? (·.word.toList == word)

/-- The prefix mode that a setting gives. -/
def PrefixMode.ofSetting (given : Setting) : Except SettingError PrefixMode :=
  match given with
  | .mode m => .ok m
  | .plain (.str s) =>
    match ofWord? s with
    | some m => .ok m
    | none => .error (ConfigError.unknownMode given).report
  | .plain _ => .error (ConfigError.unknownMode given).report

/-- A mapping with settings, in the order of its entries. -/
abbrev Settings := List (Value × Setting)

namespace Settings

/-- The setting under a key. -/
def get? (key : String) : Settings → Option Setting
  | [] => none
  | (.str k, v) :: rest => if k == key then some v else get? key rest
  | _ :: rest => get? key rest

/-- The switch under a key. -/
def switch (key : String) (absent : Bool) (s : Settings) : Except SettingError Bool :=
  match s.get? key with
  | none => .ok absent
  | some (.plain (.bool b)) => .ok b
  | some given => .error (ConfigError.notSwitch key given).report

/-- The prefix mode, bare unless it is set. -/
def prefixMode (s : Settings) : Except SettingError PrefixMode :=
  match s.get? "prefix_mode" with
  | none => .ok .bare
  | some given => PrefixMode.ofSetting given

end Settings

namespace Config

/-- The configuration that a mapping gives. -/
def ofSettings (s : Settings) : Except SettingError Config := do
  let prefixMode ← s.prefixMode
  let showDetails ← s.switch "show_details" false
  let htmlPreview ← s.switch "html_preview" true
  return { prefixMode, showDetails, htmlPreview }

/-- The configuration that the root of a file gives; an empty one gives the defaults. -/
def ofRoot (root : Value) : Except SettingError Config :=
  if root.isTruthy then
    match root with
    | .dict entries => ofSettings (entries.map fun (k, v) => (k, .plain v))
    | _ => .error ConfigError.notMapping.report
  else .ok {}

end Config

end ElementCode
