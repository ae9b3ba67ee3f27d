import ElementCode.Command.Options
import ElementCode.Config.File
import ElementCode.Preview

/-!
# The command

One run reads a Markdown file, generates code and writes it, and on request writes the HTML and a
dump of the document.  A run is a function of the file tree and the arguments; the home directories
of users and the way markup is read are parameters.  A rejected construct ends it with status one,
after the HTML and the dump have been written and before the code would be.
-/

namespace ElementCode.Command

/-- Reads a markup text. -/
abbrev MarkupReader := String → Except Markdown.Fault Reading

/-- An error that a run does not handle. -/
inductive Failure where
  /-- The input is to be found from a home directory, and there is none. -/
  | home (e : HomeError)
  /-- The input does not exist. -/
  | noInput (path : String)
  /-- The output cannot be named. -/
  | output (e : FileTree.OutputError)
  /-- A file cannot be read as a text. -/
  | read (e : ReadError)
  /-- A file cannot be written or looked up. -/
  | file (e : FileError)
  /-- The configuration file gives no configuration. -/
  | config (e : LoadError)
  /-- The markup cannot be read. -/
  | markup (f : Markdown.Fault)
  /-- There is no preview of the markup. -/
  | preview (e : PreviewError)

/-- The text of a failure. -/
def Failure.message : Failure → String
  | home e => e.message
  | noInput name => "Input file not found: " ++ name
  | output e => e.message
  | read e => e.message
  | file e => e.message
  | config e => e.message
  | markup f => f.message
  | preview e => e.message

/-- How a run ends. -/
inductive Ending where
  /-- With a status. -/
  | exit (status : Nat)
  /-- With an error that is not handled. -/
  | failed (f : Failure)

/-- What a run changes. -/
structure World where
  /-- The files. -/
  tree : FileTree
  /-- The log records. -/
  log : List LogRecord := []

/-- A part of a run, which may end it. -/
abbrev Session := ExceptT Ending (StateM World)

namespace Session

/-- Ends the run with a failure if there is an error. -/
def orFail (f : ε → Failure) (r : Except ε α) : Session α :=
  match r with
  | .ok a => return a
  | .error e => throw (.failed (f e))

/-- Adds log records. -/
def log (records : List LogRecord) : Session Unit :=
  modify fun w => { w with log := w.log ++ records }

/-- Adds a log record. -/
def say (level : LogLevel) (message : String) : Session Unit := log [⟨level, message⟩]

/-- Reports an error and ends the run with status one. -/
def giveUp (message : String) : Session α := do
  say .error message
  throw (.exit 1)

/-- Writes a file. -/
def writeFile (p : Path) (text : String) : Session Unit := do
  let (r, tree) := (← get).tree.write p text
  modify fun w => { w with tree }
  orFail .file r

end Session

open Session

/-- The configuration of a run: that of the file if one is named, with what the options say. -/
def Options.settings (o : Options) (t : FileTree) : Except LoadError Config := do
  let base ← match o.config.filter (!·.isEmpty) with
    | none => pure {}
    | some path => Config.load t path
  return { prefixMode := o.mode.getD base.prefixMode
           showDetails := base.showDetails || o.details.any (!·.isEmpty)
           htmlPreview := o.html.any (!·.isEmpty) }

/-- Takes the configuration; a refused one is reported. -/
def configure (o : Options) : Session Config := do
  match o.settings (← get).tree with
  | .ok c => return c
  | .error (.refused e) => giveUp e.message
  | .error e => throw (.failed (.config e))

/-- Where to write the code, as the tree is before anything is written; the input must exist. -/
def chooseOutput (input : Path) (o : Options) : Session Path := do
  let tree := (← get).tree
  orFail .file (tree.lookUp input)
  if tree.has input then orFail .output (tree.outputFor input o.output Path.defaultSuffix)
  else throw (.failed (.noInput input.text))

/-- Reads the input. -/
def readInput (markup : MarkupReader) (input : Path) (config : Config) : Session Reading := do
  say .info ("Reading " ++ input.text)
  let text ← orFail .read ((← get).tree.readText input)
  say .debug ("Markdown length: " ++ toString text.length ++ " chars")
  say .info ("Generating code (" ++ config.prefixMode.word ++ " constructors)...")
  orFail .markup (markup text)

/-- Writes something to the file that an option names, if there are both. -/
def writeTo (name : Option String) (what : String) (text : Option String) : Session Unit := do
  match name.filter (!·.isEmpty), text with
  | some path, some text =>
    say .info ("Writing " ++ what ++ " to " ++ path)
    writeFile (.ofString path) text
  | _, _ => pure ()

/-- Writes what a preview holds and reports on it. -/
def writePreview (o : Options) (output : Path) (p : Preview) : Session Unit := do
  writeTo o.html "HTML preview" p.html
  writeTo o.details "document dump" p.details
  match p.failure with
  | some message => giveUp message
  | none =>
    writeFile output (if p.code.isEmpty then "" else p.code ++ "\n")
    say .info ("Done. Saved to " ++ output.text)

/-- A run with its options, from where the path of the input is known. -/
def sessionFrom (markup : MarkupReader) (o : Options) (input : Path) : Session Unit := do
  let output ← chooseOutput input o
  let config ← configure o
  let reading ← readInput markup input config
  let (preview, records) ← orFail .preview (Preview.ofReading config none reading)
  log records
  writePreview o output preview

/-- A run with its options. -/
def session (homes : Homes) (markup : MarkupReader) (o : Options) : Session Unit := do
  sessionFrom markup o (← orFail .home ((Path.ofString o.input).expandUser homes))

/-- What a run leaves. -/
structure Outcome where
  /-- How it ended. -/
  ending : Ending
  /-- What it printed. -/
  output : String
  /-- What it printed about itself. -/
  errors : String
  /-- The files. -/
  tree : FileTree

/-- The lines of log records, those for debugging only if they are wanted. -/
def logText (verbose : Bool) (records : List LogRecord) : String :=
  String.join ((records.filter fun r => verbose || r.level != .debug).map fun r => r.line ++ "\n")

/-- A run. -/
def run (homes : Homes) (markup : MarkupReader) (tree : FileTree) (argv : List String) : Outcome :=
  match Options.parse argv with
  | .error .help => ⟨.exit 0, helpText, "", tree⟩
  | .error (.wrong message) => ⟨.exit 2, "", wrongText message, tree⟩
  | .ok o =>
    let (r, w) := (session homes markup o).run.run { tree }
    let ending := match r with
      | .ok _ => .exit 0
      | .error e => e
    ⟨ending, "", logText o.verbose w.log, w.tree⟩

end ElementCode.Command
