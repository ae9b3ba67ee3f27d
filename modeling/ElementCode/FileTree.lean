import ElementCode.Path
import ElementCode.Text.Newline
import ElementCode.Text.Utf8

/-!
# File trees

The files and directories of a file system, and what reading and writing does to them.  Paths are
followed segment by segment, absolute ones from the top and others from the working directory; a
double dot leads to the directory above the one reached, and the top lies above itself.  Writing a
file first makes the directories it lies in; those made before a failure stay.
-/

namespace ElementCode

/-- Where a file or directory lies: the names from the top directory on. -/
abbrev Location := List Name

/-- The files and directories of a file system. -/
structure FileTree where
  /-- The files with their content. -/
  files : List (Location × List UInt8) := []
  /-- The directories other than the top. -/
  dirs : List Location := []
  /-- The working directory. -/
  cwd : Location := []
  deriving DecidableEq, Repr, Inhabited

/-- Why a file cannot be used. -/
inductive FileError where
  | notFound (path : String)
  | exists (path : String)
  | notDirectory (path : String)
  | isDirectory (path : String)
  /-- A name has more than 255 bytes, or the path more than 4095. -/
  | tooLong (path : String)
  /-- The path holds a null character. -/
  | nullByte
  deriving DecidableEq, Repr

/-- The text of an error. -/
def FileError.message : FileError → String
  | notFound path => "[Errno 2] No such file or directory: " ++ Display.string path
  | .exists path => "[Errno 17] File exists: " ++ Display.string path
  | notDirectory path => "[Errno 20] Not a directory: " ++ Display.string path
  | isDirectory path => "[Errno 21] Is a directory: " ++ Display.string path
  | tooLong path => "[Errno 36] File name too long: " ++ Display.string path
  | nullByte => "embedded null byte"

/-- Why a file cannot be read as a text. -/
inductive ReadError where
  | file (e : FileError)
  | undecodable (f : Text.Utf8Fault)

/-- The text of an error. -/
def ReadError.message : ReadError → String
  | file e => e.message
  | undecodable f => f.message

/-- What a path leads to. -/
inductive Found where
  | directory (l : Location)
  | file (l : Location)
  /-- A segment has no entry. -/
  | nothing
  /-- A segment before the last is a file. -/
  | blocked
  /-- A segment that is looked up is too long, or the path as a whole. -/
  | tooLong
  /-- The path holds a null character. -/
  | unnameable
  deriving DecidableEq, Repr

namespace FileTree

/-- The content of the file at a location. -/
def file? (t : FileTree) (l : Location) : Option (List UInt8) :=
  (t.files.find? (·.1 == l)).map (·.2)

/-- Whether a directory lies at a location. -/
def isDirAt (t : FileTree) (l : Location) : Bool := l.isEmpty || t.dirs.contains l

/-- Whether a segment is too long for a name. -/
def isLongName (part : Name) : Bool := 255 < (String.ofList part).utf8ByteSize

/-- Whether a path is too long as a whole. -/
def isLongPath (p : Path) : Bool := 4095 < p.text.utf8ByteSize

/-- Whether a path holds a null character. -/
def hasNull (p : Path) : Bool := p.parts.any (·.contains '\x00')

/-- Follows segments from a directory on. -/
def follow (t : FileTree) (here : Location) : List Name → Found
  | [] => .directory here
  | part :: rest =>
    if part == ['.', '.'] then t.follow here.dropLast rest
    else if isLongName part then .tooLong
    else
      let next := here ++ [part]
      if t.isDirAt next then t.follow next rest
      else if (t.file? next).isSome then if rest.isEmpty then .file next else .blocked
      else .nothing

/-- Where a path starts. -/
def start (t : FileTree) (p : Path) : Location := if p.root.isEmpty then t.cwd else []

/-- What a path leads to. -/
def find (t : FileTree) (p : Path) : Found :=
  if hasNull p then .unnameable
  else if isLongPath p then .tooLong
  else t.follow (t.start p) p.parts

/-- Whether a path leads to a file or directory. -/
def has (t : FileTree) (p : Path) : Bool :=
  match t.find p with
  | .directory _ | .file _ => true
  | _ => false

/-- Whether a path leads to a directory. -/
def isDirectory (t : FileTree) (p : Path) : Bool :=
  match t.find p with
  | .directory _ => true
  | _ => false

/-- Requires that a path can be looked up, whether it leads to something or not. -/
def lookUp (t : FileTree) (p : Path) : Except FileError Unit :=
  if t.find p = .tooLong then .error (.tooLong p.text) else .ok ()

/-! ## Reading -/

/-- The content of a file. -/
def readBytes (t : FileTree) (p : Path) : Except FileError (List UInt8) :=
  match t.find p with
  | .file l => .ok ((t.file? l).getD [])
  | .directory _ => .error (.isDirectory p.text)
  | .nothing => .error (.notFound p.text)
  | .blocked => .error (.notDirectory p.text)
  | .tooLong => .error (.tooLong p.text)
  | .unnameable => .error .nullByte

/-- The text of a file, with line feeds for all line endings. -/
def readText (t : FileTree) (p : Path) : Except ReadError String :=
  match t.readBytes p with
  | .error e => .error (.file e)
  | .ok bytes =>
    match Text.decodeUtf8 bytes with
    | .error f => .error (.undecodable f)
    | .ok s => .ok (String.ofList (Text.unifyNewlines s.toList))

/-! ## Writing -/

/-- The bytes of a text. -/
def encode (s : String) : List UInt8 := s.toUTF8.toList

/-- Sets the content of the file at a location. -/
def setFile (t : FileTree) (l : Location) (bytes : List UInt8) : FileTree :=
  { t with files :=
      if (t.file? l).isSome then
        t.files.map fun (m, old) => if m == l then (m, bytes) else (m, old)
      else t.files ++ [(l, bytes)] }

/-- Makes one directory. -/
def makeDirectory (t : FileTree) (p : Path) : Except FileError FileTree :=
  match p.parts.getLast? with
  | none => .error (.exists p.text)
  | some last =>
    if hasNull p then .error .nullByte
    else if isLongPath p then .error (.tooLong p.text)
    else match t.find p.parent with
    | .nothing | .unnameable => .error (.notFound p.text)
    | .file _ | .blocked => .error (.notDirectory p.text)
    | .tooLong => .error (.tooLong p.text)
    | .directory l =>
      let here := l ++ [last]
      if isLongName last then .error (.tooLong p.text)
      else if last == ['.', '.'] || t.isDirAt here || (t.file? here).isSome then
        .error (.exists p.text)
      else .ok { t with dirs := t.dirs ++ [here] }

/-- Makes one directory unless it is there. -/
def ensureDirectory (t : FileTree) (p : Path) : Except FileError FileTree :=
  match t.makeDirectory p with
  | .ok t => .ok t
  | .error (.notFound path) => .error (.notFound path)
  | .error .nullByte => .error .nullByte
  | .error e => if t.isDirectory p then .ok t else .error e

/-- Makes the directory with the first `n` segments of a path and those above it, as far as they
are not there; gives the tree reached, also on a failure. -/
def ensureParents (p : Path) : Nat → FileTree → Except FileError Unit × FileTree
  | 0, t =>
    match t.ensureDirectory { p with parts := [] } with
    | .ok t => (.ok (), t)
    | .error e => (.error e, t)
  | n + 1, t =>
    let here : Path := { p with parts := p.parts.take (n + 1) }
    match t.ensureDirectory here with
    | .ok t => (.ok (), t)
    | .error (.notFound _) =>
      match ensureParents p n t with
      | (.error e, t) => (.error e, t)
      | (.ok _, t) =>
        match t.ensureDirectory here with
        | .ok t => (.ok (), t)
        | .error e => (.error e, t)
    | .error e => (.error e, t)

/-- Writes a file, making the directories above it; gives the tree reached, also on a failure. -/
def write (t : FileTree) (p : Path) (text : String) : Except FileError Unit × FileTree :=
  match ensureParents p.parent p.parent.parts.length t with
  | (.error e, t) => (.error e, t)
  | (.ok _, t) =>
    match t.find p with
    | .directory _ => (.error (.isDirectory p.text), t)
    | .file l => (.ok (), t.setFile l (encode text))
    | .blocked => (.error (.notDirectory p.text), t)
    | .tooLong => (.error (.tooLong p.text), t)
    | .unnameable => (.error .nullByte, t)
    | .nothing =>
      match t.find p.parent, p.parts.getLast? with
      | .directory l, some last => (.ok (), t.setFile (l ++ [last]) (encode text))
      | _, _ => (.error (.notFound p.text), t)

/-! ## Outputs -/

/-- Why an output has no path. -/
inductive OutputError where
  /-- It cannot be named. -/
  | path (e : PathError)
  /-- It cannot be looked up. -/
  | file (e : FileError)

/-- The text of an error. -/
def OutputError.message : OutputError → String
  | path e => e.message
  | file e => e.message

/-- Where to write what is generated from `input`, as the directories of the tree have it. -/
def outputFor (t : FileTree) (input : Path) (output : Option String) (suffix : List Char) :
    Except OutputError Path := do
  match output.filter (!·.isEmpty) with
  | some out => (t.lookUp (.ofString out)).mapError .file
  | none => pure ()
  (Path.outputFor t.isDirectory input output suffix).mapError .path

/-! ## Building trees -/

/-- All directories above a location, the highest first, and the location itself. -/
def prefixes (l : Location) : List Location :=
  (List.range l.length).map fun n => l.take (n + 1)

/-- The tree with a directory and those above it. -/
def addDirectory (t : FileTree) (l : Location) : FileTree :=
  let add (dirs : List Location) (m : Location) := if dirs.contains m then dirs else dirs ++ [m]
  { t with dirs := (prefixes l).foldl add t.dirs }

/-- The tree with a file and the directories above it. -/
def addFile (t : FileTree) (l : Location) (bytes : List UInt8) : FileTree :=
  (t.addDirectory l.dropLast).setFile l bytes

end FileTree

end ElementCode
