import ElementCode.Command

/-!
# The program

Runs the command on the files of the system: what the arguments name is read into a file tree, and
what the run has changed in the tree is written back.
-/

namespace ElementCode.Main

/-- The text of a location. -/
def locationText (l : Location) : String := String.ofList ('/' :: Path.joinParts l)

/-- Adds what lies along some segments to a tree. -/
def explore (t : FileTree) (here : Location) : List Name → IO FileTree
  | [] => return t
  | part :: rest => do
    if part == ['.', '.'] then explore t here.dropLast rest
    else
      let next := here ++ [part]
      let found ← (IO.FS.readBinFile (locationText next)).toBaseIO
      match found with
      | .ok bytes => return t.addFile next bytes.toList
      | .error (.inappropriateType ..) => explore (t.addDirectory next) next rest
      | _ => return t

/-- The home directories that the system tells: the variable `HOME` has that of the one who runs the
command, and the list of users those of the others. -/
def readHomes : IO Homes := do
  let home ← IO.getEnv "HOME"
  let users ← (IO.FS.lines "/etc/passwd").toBaseIO
  let lines : List String := match users with
    | .ok lines => lines.toList
    | .error _ => []
  let entries := lines.map fun line => Text.splitAtChar ':' line.toList
  return fun user =>
    if user.isEmpty then home.map String.toList
    else (entries.find? (·.head? == some user)).bind fun fields => fields[5]?

/-- The part of the file system that arguments name. -/
def readTree (homes : Homes) (argv : List String) : IO FileTree := do
  match Command.Options.parse argv with
  | .error _ => return {}
  | .ok o =>
    let cwd := (Path.ofString (← IO.currentDir).toString).parts
    let named := [o.output, o.html, o.details, o.config].filterMap id
    let input := ((Path.ofString o.input).expandUser homes).toOption
    let mut t : FileTree := { cwd }
    for p in input.toList ++ named.map Path.ofString do
      t ← explore t (t.start p) p.parts
    return t

/-- Writes what has changed between two trees. -/
def writeTree (old new : FileTree) : IO Unit := do
  for l in new.dirs do
    if !old.dirs.contains l then IO.FS.createDirAll (locationText l)
  for (l, bytes) in new.files do
    if old.file? l != some bytes then
      IO.FS.writeBinFile (locationText l) (ByteArray.mk bytes.toArray)

end ElementCode.Main

open ElementCode in
/-- Runs the command; gives its status. -/
def main (argv : List String) : IO UInt32 := do
  let homes ← Main.readHomes
  let tree ← Main.readTree homes argv
  let outcome := Command.run homes Reading.ofMarkdown tree argv
  Main.writeTree tree outcome.tree
  IO.print outcome.output
  IO.eprint outcome.errors
  match outcome.ending with
  | .exit status => return status.toUInt32
  | .failed f =>
    IO.eprintln f.message
    return 1
