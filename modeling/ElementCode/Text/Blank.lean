/-!
# White space

Two classes of white space that are wider than the ASCII class, with trimming and splitting on
them.  Both hold every space separator of Unicode.  `isBlank`, for configuration words, languages,
formulas and HTML tags, also holds the separators U+001C to U+001F and the next-line character,
which `isGap`, for the layout of Markdown, leaves out.
-/

namespace ElementCode.Text

/-- The twenty-nine white space characters. -/
def isBlank (c : Char) : Bool :=
  let n := c.toNat
  (9 ≤ n && n ≤ 13) || (0x1C ≤ n && n ≤ 0x20) || n == 0x85 || n == 0xA0 || n == 0x1680 ||
    (0x2000 ≤ n && n ≤ 0x200A) || n == 0x2028 || n == 0x2029 || n == 0x202F || n == 0x205F ||
    n == 0x3000

/-- The white space of Markdown's layout. -/
def isGap (c : Char) : Bool :=
  let n := c.toNat
  isBlank c && n != 0x85 && !(0x1C ≤ n && n ≤ 0x1F)

/-- Drops the characters of a class at both ends. -/
def trimBy (p : Char → Bool) (cs : List Char) : List Char :=
  ((cs.dropWhile p).reverse.dropWhile p).reverse

/-- Drops white space at both ends. -/
def trim (cs : List Char) : List Char := trimBy isBlank cs

/-- Drops white space at both ends of a string. -/
def strip (s : String) : String :=
  String.ofList (trim s.toList)

/-- The words still to come: `word` holds, in reverse, the letters read of the current word. -/
def wordsFrom (p : Char → Bool) (word : List Char) : List Char → List (List Char)
  | [] => if word.isEmpty then [] else [word.reverse]
  | c :: cs =>
    if p c then
      if word.isEmpty then wordsFrom p [] cs else word.reverse :: wordsFrom p [] cs
    else wordsFrom p (c :: word) cs

/-- The maximal runs of characters outside a class, in order. -/
def wordsBy (p : Char → Bool) (cs : List Char) : List (List Char) := wordsFrom p [] cs

/-- The maximal runs of characters that are not white space, in order. -/
def words (cs : List Char) : List (List Char) := wordsBy isBlank cs

/-- Each run of characters of a class becomes one space; `inRun` says that the run has been
written. -/
def collapseFrom (p : Char → Bool) (inRun : Bool) : List Char → List Char
  | [] => []
  | c :: cs =>
    if p c then
      if inRun then collapseFrom p true cs else ' ' :: collapseFrom p true cs
    else c :: collapseFrom p false cs

/-- Each run of characters of a class becomes one space. -/
def collapseBy (p : Char → Bool) (cs : List Char) : List Char := collapseFrom p false cs

/-- The pieces between the occurrences of `sep`, at least one. -/
def splitAtChar (sep : Char) : List Char → List (List Char)
  | [] => [[]]
  | c :: cs =>
    match splitAtChar sep cs with
    | [] => [[c]]
    | piece :: rest => if c == sep then [] :: piece :: rest else (c :: piece) :: rest

end ElementCode.Text
