import ElementCode.Value.Display
import ElementCode.Yaml.Build

/-!
# Reading YAML

A text with at most one document becomes a value; a text without one stands for null.
-/

namespace ElementCode.Yaml

/-- The text of an error. -/
def Error.message : Error → String
  | invalid => "not well formed"
  | notCodePoint => "chr() arg not in range(0x110000)"
  | escapeTooLarge => "Python int too large to convert to C int"
  | emptyNumber => "string index out of range"
  | notInteger base text =>
    "invalid literal for int() with base " ++ toString base ++ ": " ++
      String.ofList ((Display.points text).toList.take 200)
  | tooManyDigits count => Display.digitLimitText (some count)
  | notNumber text => "could not convert string to float: " ++ Display.points text
  | weightTooLarge => "int too large to convert to float"
  | notBool word => Display.points word
  | notTimestamp => "'NoneType' object has no attribute 'groupdict'"
  | mappingForTimestamp => "expected string or bytes-like object, got 'list'"
  | badTime reason => reason

/-- The value of a text. -/
def read (text : String) : Except Error Value := do
  match ← Graph.ofScan (.ofText text.toList) with
  | none => return .null
  | some g => g.value

end ElementCode.Yaml
