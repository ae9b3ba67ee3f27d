import ElementCode.Text.Blank
import ElementCode.Value.Display

/-!
# Paths

Paths of files in their normal form: empty segments and single dots are left out, double dots are
kept.  The suffix of a name starts at its last dot, unless that is the first or the last character.
A relative path may start in the home directory of a user, which is then put in its place.
-/

namespace ElementCode

/-- The name of a file or directory. -/
abbrev Name := List Char

/-- A path. -/
structure Path where
  /-- The slashes in front of an absolute path: one, or exactly two. -/
  root : List Char := []
  /-- The segments. -/
  parts : List Name
  deriving DecidableEq, Repr, Inhabited

/-- Why a path has no other name. -/
inductive PathError where
  /-- The suffix does not start with a dot, is one, or holds a slash. -/
  | badSuffix (suffix : String)
  /-- The path has no last segment. -/
  | noName (path : String)
  deriving DecidableEq, Repr

/-- The text of an error. -/
def PathError.message : PathError → String
  | badSuffix suffix => "Invalid suffix " ++ Display.string suffix
  | noName path => "PosixPath(" ++ Display.string path ++ ") has an empty name"

/-- The home directories of users by their names; the empty name is for the one who runs the
command. -/
abbrev Homes := Name → Option (List Char)

/-- Why a home directory is not put in. -/
inductive HomeError where
  /-- There is none for the user. -/
  | unknown
  /-- The name of the user holds a null character. -/
  | nullByte
  deriving DecidableEq, Repr

/-- The text of an error. -/
def HomeError.message : HomeError → String
  | unknown => "Could not determine home directory."
  | nullByte => "embedded null byte"

/-- The stem and the suffix of a name. -/
def Name.split (name : Name) : Name × List Char :=
  let last := (name.reverse.takeWhile (· != '.')).reverse
  let front := name.take (name.length - last.length)
  if last.isEmpty || front.length ≤ 1 then (name, []) else (front.dropLast, '.' :: last)

namespace Path

/-- The path that a text writes. -/
def ofString (s : String) : Path :=
  let cs := s.toList
  let slashes := (cs.takeWhile (· == '/')).length
  { root := if slashes == 0 then [] else if slashes == 2 then ['/', '/'] else ['/']
    parts := (Text.splitAtChar '/' cs).filter fun part => part != [] && part != ['.'] }

/-- Segments with slashes between them. -/
def joinParts : List Name → List Char
  | [] => []
  | [part] => part
  | part :: rest => part ++ '/' :: joinParts rest

/-- A path as a text; the empty one is a dot. -/
def text (p : Path) : String :=
  if p.root.isEmpty && p.parts.isEmpty then "." else String.ofList (p.root ++ joinParts p.parts)

/-- The directory of a path. -/
def parent (p : Path) : Path := { p with parts := p.parts.dropLast }

/-- The last segment, empty when there is none. -/
def name (p : Path) : Name := p.parts.getLast?.getD []

/-- The last segment without its suffix. -/
def stem (p : Path) : Name := p.name.split.1

/-- The suffix of the last segment. -/
def suffix (p : Path) : List Char := p.name.split.2

/-- The path that a text writes, seen from a directory. -/
def join (p : Path) (s : String) : Path :=
  let q := ofString s
  if q.root.isEmpty then { p with parts := p.parts ++ q.parts } else q

/-- The path with a home directory in place of a first segment that starts with a tilde.  The rest
of the segment names a user. -/
def expandUser (homes : Homes) (p : Path) : Except HomeError Path :=
  match p with
  | ⟨[], ('~' :: user) :: rest⟩ =>
    if user.contains '\x00' then .error .nullByte
    else
      match homes user with
      | none => .error .unknown
      | some home =>
        let home := (home.reverse.dropWhile (· == '/')).reverse
        if home.head? == some '~' then .error .unknown
        else
          let directory := ofString (if home.isEmpty then "/" else String.ofList home)
          .ok { directory with parts := directory.parts ++ rest }
  | p => .ok p

/-- Whether a text can be a suffix. -/
def isSuffix (s : List Char) : Bool :=
  !s.contains '/' && (s.isEmpty || (s.head? == some '.' && s != ['.']))

/-- The path with another suffix. -/
def withSuffix (p : Path) (s : List Char) : Except PathError Path :=
  if !isSuffix s then .error (.badSuffix (String.ofList s))
  else if p.name.isEmpty then .error (.noName p.text)
  else .ok { p with parts := p.parts.dropLast ++ [p.stem ++ s] }

/-- The suffix of generated code. -/
def defaultSuffix : List Char := ".gleam".toList

/-- Where to write what is generated from `input`: to `output`, or into it when it is a directory,
under the name of the input; without an output, beside the input. -/
def outputFor (isDirectory : Path → Bool) (input : Path) (output : Option String)
    (suffix : List Char) : Except PathError Path :=
  match output.filter (!·.isEmpty) with
  | some out =>
    let target := ofString out
    .ok (if isDirectory target then target.join (String.ofList (input.stem ++ suffix)) else target)
  | none => input.withSuffix suffix

end Path

end ElementCode
