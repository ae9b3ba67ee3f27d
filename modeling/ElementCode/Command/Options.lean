import ElementCode.Code
import ElementCode.Text.Digit
import ElementCode.Value.Display

/-!
# Command line options

The arguments of a run.  Long options may be shortened as long as only one option matches; a value
follows an option as the next argument, after an equals sign, or directly after a short option.
After two hyphens everything is a word.  All arguments are first classified, then taken in order.
-/

namespace ElementCode.Command

/-! ## Flags -/

/-- The options that can be given. -/
inductive Flag where
  | help | output | html | details | mode | config | verbose
  deriving DecidableEq, Repr

/-- The spellings of the flags, in the order in which messages list them. -/
def spellings : List (String × Flag) :=
  [("-h", .help), ("--help", .help), ("-o", .output), ("--output", .output), ("--html", .html),
    ("--details", .details), ("--prefix", .mode), ("--config", .config), ("--verbose", .verbose)]

/-- Whether a value belongs to a flag. -/
def Flag.takesValue : Flag → Bool
  | help | verbose => false
  | _ => true

/-- A flag as messages name it: by its spellings. -/
def Flag.label (f : Flag) : String :=
  "/".intercalate ((spellings.filter (·.2 == f)).map (·.1))

/-- Why a run does not start. -/
inductive Usage where
  /-- Help was asked for. -/
  | help
  /-- The arguments are wrong. -/
  | wrong (message : String)
  deriving DecidableEq, Repr

/-- The summary of the arguments. -/
def usageText : String :=
  "usage: rendercode [-h] [-o OUTPUT] [--html HTML] [--details DETAILS]\n" ++
  "                  [--prefix \x7bnamespaced,bare\x7d] [--config CONFIG] [--verbose]\n" ++
  "                  input\n"

/-- The help. -/
def helpText : String :=
  usageText ++
  "\n" ++
  "Convert Markdown into element construction code.\n" ++
  "\n" ++
  "positional arguments:\n" ++
  "  input                 Path to Markdown file\n" ++
  "\n" ++
  "options:\n" ++
  "  -h, --help            show this help message and exit\n" ++
  "  -o OUTPUT, --output OUTPUT\n" ++
  "                        Output code path\n" ++
  "  --html HTML           Also write the HTML preview to this path\n" ++
  "  --details DETAILS     Also write the parsed document dump to this path\n" ++
  "  --prefix \x7bnamespaced,bare\x7d\n" ++
  "                        Constructor naming (overrides the config file)\n" ++
  "  --config CONFIG       YAML config file\n" ++
  "  --verbose             Enable debug logging\n"

/-- What is said about wrong arguments. -/
def wrongText (message : String) : String := usageText ++ "rendercode: error: " ++ message ++ "\n"

/-- A message about a flag. -/
def aboutFlag (f : Flag) (message : String) : Usage :=
  .wrong ("argument " ++ f.label ++ ": " ++ message)

/-! ## Classes of arguments -/

/-- An argument. -/
inductive Arg where
  /-- A word. -/
  | word (s : String)
  /-- Two hyphens. -/
  | hyphens
  /-- A flag in one of its spellings, perhaps with a value. -/
  | flag (f : Flag) (spelling : String) (value : Option (List Char))
  /-- Something that looks like a flag. -/
  | unknown (s : String)
  deriving DecidableEq, Repr

/-- The flag with a spelling. -/
def flag? (spelling : List Char) : Option Flag :=
  (spellings.find? (·.1.toList == spelling)).map (·.2)

/-- Splits a text at its first equals sign. -/
def splitEquals (cs : List Char) : List Char × Option (List Char) :=
  match cs.dropWhile (· != '=') with
  | _ :: value => (cs.takeWhile (· != '='), some value)
  | [] => (cs, none)

/-- Whether a text is a negative number: digits, perhaps with a point before the last ones.  A line
feed at the end does not count. -/
def isNegative (cs : List Char) : Bool :=
  let digit (c : Char) : Bool := (Text.digitValue? c).isSome
  let run (cs : List Char) : Bool := !cs.isEmpty && cs.all digit
  match if cs.getLast? == some '\n' then cs.dropLast else cs with
  | '-' :: rest =>
    match rest.dropWhile digit with
    | [] => run rest
    | '.' :: fraction => run fraction
    | _ => false
  | _ => false

/-- The flags that a text can stand for, each with the value in the text. -/
def candidates (cs : List Char) : List Arg :=
  match cs with
  | '-' :: '-' :: _ =>
    let (start, value) := splitEquals cs
    (spellings.filter fun (s, _) => start.isPrefixOf s.toList).map fun (s, f) => .flag f s value
  | _ =>
    (spellings.filter fun (s, _) => s.toList == cs.take 2).map fun (s, f) =>
      .flag f s (some (cs.drop 2))

/-- The class of an argument that does not come after two hyphens. -/
def classify (s : String) : Except Usage Arg :=
  let cs := s.toList
  if cs.head? != some '-' then .ok (.word s)
  else
    let (start, value) := splitEquals cs
    match flag? cs, value, flag? start with
    | some f, _, _ => .ok (.flag f s none)
    | none, some value, some f => .ok (.flag f (String.ofList start) (some value))
    | none, _, _ =>
      if cs.length == 1 then .ok (.word s)
      else
        match candidates cs with
        | [arg] => .ok arg
        | [] => .ok (if isNegative cs || cs.contains ' ' then .word s else .unknown s)
        | several =>
          let names := several.filterMap fun
            | .flag _ spelling _ => some spelling
            | _ => none
          .error (.wrong ("ambiguous option: " ++ s ++ " could match " ++ ", ".intercalate names))

/-- The classes of all arguments. -/
def classifyAll : List String → Except Usage (List Arg)
  | [] => .ok []
  | s :: rest =>
    if s == "--" then .ok (.hyphens :: rest.map .word)
    else do
      let arg ← classify s
      let args ← classifyAll rest
      return arg :: args

/-! ## Taking arguments -/

/-- The arguments taken so far. -/
structure Taken where
  /-- The first word. -/
  input : Option String := none
  output : Option String := none
  html : Option String := none
  details : Option String := none
  mode : Option PrefixMode := none
  config : Option String := none
  verbose : Bool := false
  /-- The arguments that have no place. -/
  extra : List String := []
  deriving DecidableEq, Repr

/-- The prefix mode that a value of the flag for it names. -/
def modeOf (value : String) : Except Usage PrefixMode :=
  match PrefixMode.all.find? (·.word == value) with
  | some m => .ok m
  | none =>
    .error (aboutFlag .mode ("invalid choice: " ++ Display.string value ++ " (choose from " ++
      ", ".intercalate (PrefixMode.all.map fun m => Display.string m.word) ++ ")"))

/-- Takes a flag with its value.  Two hyphens are no value and take back an earlier one. -/
def Taken.set (t : Taken) (f : Flag) (value : String) : Except Usage Taken := do
  let given := if value == "--" then none else some value
  match f with
  | .help => .error .help
  | .verbose => return { t with verbose := true }
  | .output => return { t with output := given }
  | .html => return { t with html := given }
  | .details => return { t with details := given }
  | .config => return { t with config := given }
  | .mode => return { t with mode := ← given.mapM modeOf }

/-- The flag with a value that is the next argument. -/
def withNext (f : Flag) : List Arg → Except Usage (List (Flag × String) × List Arg)
  | .word v :: rest => .ok ([(f, v)], rest)
  | _ => .error (aboutFlag f "expected one argument")

/-- What a value says that a flag cannot take. -/
def ignored (f : Flag) (value : List Char) : Usage :=
  aboutFlag f ("ignored explicit argument " ++ Display.string (String.ofList value))

/-- The flags of a short one without a value, followed by more letters in its argument. -/
def cluster (f : Flag) (rest : List Arg) :
    List Char → Except Usage (List (Flag × String) × List Arg)
  | [] => .ok ([(f, "")], rest)
  | c :: more => do
    match flag? ['-', c] with
    | none => .error (ignored f (c :: more))
    | some g =>
      let (flags, rest) ←
        if !g.takesValue then cluster g rest more
        else if more.isEmpty then withNext g rest
        else .ok ([(g, String.ofList more)], rest)
      return ((f, "") :: flags, rest)

/-- The flags that an argument gives, with their values, and the arguments after it. -/
def flagsOf (f : Flag) (spelling : String) (value : Option (List Char)) (rest : List Arg) :
    Except Usage (List (Flag × String) × List Arg) :=
  match f.takesValue, value with
  | true, some v => .ok ([(f, String.ofList v)], rest)
  | true, none => withNext f rest
  | false, none => .ok ([(f, "")], rest)
  | false, some v =>
    if spelling.length == 2 && !v.isEmpty then cluster f rest v else .error (ignored f v)

/-- Takes all arguments, at most `fuel` of them.  The first word is the input; two hyphens beside
it are skipped. -/
def takeAll : Nat → List Arg → Taken → Except Usage Taken
  | 0, _, t => .ok t
  | _, [], t => .ok t
  | fuel + 1, .flag f spelling value :: rest, t => do
    let (flags, rest) ← flagsOf f spelling value rest
    let t ← flags.foldlM (fun t (f, v) => t.set f v) t
    takeAll fuel rest t
  | fuel + 1, .unknown s :: rest, t => takeAll fuel rest { t with extra := t.extra ++ [s] }
  | fuel + 1, .word s :: rest, t =>
    match t.input, rest with
    | some _, rest => takeAll fuel rest { t with extra := t.extra ++ [s] }
    | none, .hyphens :: rest => takeAll fuel rest { t with input := some s }
    | none, rest => takeAll fuel rest { t with input := some s }
  | fuel + 1, .hyphens :: rest, t =>
    match t.input, rest with
    | none, .word s :: rest => takeAll fuel rest { t with input := some s }
    | _, rest => takeAll fuel rest { t with extra := t.extra ++ ["--"] }

/-- The options of a run. -/
structure Options where
  /-- The Markdown file. -/
  input : String
  /-- Where to write the code. -/
  output : Option String
  /-- Where to write the HTML. -/
  html : Option String
  /-- Where to write the dump of the document. -/
  details : Option String
  /-- How constructors are named. -/
  mode : Option PrefixMode
  /-- The configuration file. -/
  config : Option String
  /-- Whether to show debug records. -/
  verbose : Bool
  deriving DecidableEq, Repr

/-- The options that arguments give. -/
def Options.parse (argv : List String) : Except Usage Options := do
  let args ← classifyAll argv
  let t ← takeAll args.length args {}
  match t.input with
  | none => .error (.wrong "the following arguments are required: input")
  | some input =>
    if t.extra.isEmpty then
      return { input, output := t.output, html := t.html, details := t.details, mode := t.mode
               config := t.config, verbose := t.verbose }
    else .error (.wrong ("unrecognized arguments: " ++ " ".intercalate t.extra))

end ElementCode.Command
