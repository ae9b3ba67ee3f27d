import ElementCode.Config
import ElementCode.Document.Data
import ElementCode.Document.Elements
import ElementCode.Markdown
import ElementCode.Markup.Document
import ElementCode.Markup.Html
import ElementCode.Yaml.Writer

/-!
# Previews

What one markup text gives: the generated code, the HTML, and a dump of the parsed document.  The
HTML does not depend on whether the document can be expressed in code, and the dump only on
whether it can be built; a rejected construct is reported in place of the code.  Other errors of the
builder and the mapping end a preview.
-/

namespace ElementCode

/-! ## Log records -/

/-- How much a log record matters. -/
inductive LogLevel where
  | debug | info | warning | error
  deriving DecidableEq, Repr

/-- The word for a level. -/
def LogLevel.word : LogLevel → String
  | debug => "DEBUG"
  | info => "INFO"
  | warning => "WARNING"
  | error => "ERROR"

/-- A log record. -/
structure LogRecord where
  /-- How much it matters. -/
  level : LogLevel
  /-- What it says. -/
  message : String
  deriving DecidableEq, Repr

/-- A record as a line shows it. -/
def LogRecord.line (r : LogRecord) : String := r.level.word ++ " " ++ r.message

/-! ## Previews -/

/-- A markup text as it has been read: its tokens, and their HTML. -/
structure Reading where
  /-- The tokens. -/
  tokens : List Markup.Token
  /-- The HTML. -/
  html : String

/-- Reads a Markdown text. -/
def Reading.ofMarkdown (text : String) : Except Markdown.Fault Reading :=
  (Markdown.parse text).map fun tokens => ⟨tokens, Markup.html tokens⟩

/-- A dump of a value. -/
def Value.dump (v : Value) : String := Yaml.write v.tagged

/-- A dump of a document. -/
def Document.dump (d : Document) : String := d.toValue.dump

/-- What one markup text gives. -/
structure Preview where
  /-- The generated code, empty when there is a failure. -/
  code : String
  /-- The HTML, if it was asked for. -/
  html : Option String := none
  /-- The dump of the document, if it was asked for and could be built. -/
  details : Option String := none
  /-- Why there is no code. -/
  failure : Option String := none
  deriving DecidableEq, Repr

/-- Why there is no preview. -/
inductive PreviewError where
  /-- The tokens are not those of a document. -/
  | build (e : Markup.BuildError)
  /-- The document cannot be mapped, and no construct is rejected. -/
  | mapping (e : MappingError)

/-- The text of an error. -/
def PreviewError.message : PreviewError → String
  | build e => e.message
  | mapping e => e.message

/-- A function that is applied to generated code. -/
abbrev Formatter := String → String

namespace Preview

section

variable {m : Type → Type} [Monad m]

/-- The preview of a document, and the log records on the way.  The function that is applied to the
code may have effects. -/
def ofDocumentM (config : Config) (format : Option (String → m String)) (html : Option String)
    (d : Document) : m (Except PreviewError (Preview × List LogRecord)) := do
  let details := if config.showDetails then some d.dump else none
  let mapping : LogRecord := ⟨.debug, "Mapping " ++ toString d.blocks.length ++ " blocks"⟩
  match d.printCode config.prefixMode with
  | .ok code =>
    let code ← match format with
      | some f => f code
      | none => pure code
    return .ok ({ code, html, details }, [mapping])
  | .error (.rejected r) =>
    return .ok ({ code := "", html, details, failure := some r.message },
      [mapping, ⟨.warning, "Code generation rejected: " ++ r.message⟩])
  | .error e => return .error (.mapping e)

/-- The preview of a text that has been read, and the log records on the way.  Only a stream of
tokens that no text gives is an error. -/
def ofReadingM (config : Config) (format : Option (String → m String)) (reading : Reading) :
    m (Except PreviewError (Preview × List LogRecord)) := do
  let html := if config.htmlPreview then some reading.html else none
  match Markup.document reading.tokens with
  | .ok d => ofDocumentM config format html d
  | .error (.rejected r) =>
    return .ok ({ code := "", html, failure := some r.message },
      [⟨.warning, "Markup rejected: " ++ r.message⟩])
  | .error e => return .error (.build e)

end

/-- The preview of a text that has been read, with a formatter that has no effects. -/
def ofReading (config : Config) (format : Option Formatter) (reading : Reading) :
    Except PreviewError (Preview × List LogRecord) :=
  Id.run (ofReadingM config format reading)

end Preview

end ElementCode
