import ElementCode.Literal

/-!
# Element construction code

The tree of constructor calls that a document becomes, and its printed form.  A call stands on its
own line, indented by two spaces for each level, and children are separated by a comma and a line
break.  The constructors of elements and text may be qualified by the module they come from; the
constructor of raw HTML always names its module.
-/

namespace ElementCode

/-- How constructors are named: qualified by their module, or bare. -/
inductive PrefixMode where
  | namespaced
  | bare
  deriving DecidableEq, Repr, Inhabited

namespace PrefixMode

/-- All modes, in the order in which messages list them. -/
def all : List PrefixMode := [namespaced, bare]

/-- The word for a mode. -/
def word : PrefixMode → String
  | namespaced => "namespaced"
  | bare => "bare"

/-- What stands before a constructor's name. -/
def qualifier : PrefixMode → List Char
  | namespaced => "html.".toList
  | bare => []

end PrefixMode

/-- A constructor call. -/
inductive Code where
  /-- An element with children. -/
  | element (tag : String) (attributes : List (String × String)) (children : List Code)
  /-- An element that has no children. -/
  | selfClosing (tag : String) (attributes : List (String × String))
  /-- Content that passes through without processing. -/
  | rawHtml (space tag : String) (attributes : List (String × String)) (content : String)
  /-- A text argument. -/
  | text (content : String)
  deriving Inhabited

namespace Code

/-- Two spaces for each level; a negative depth has none. -/
def indent (depth : Int) : List Char := List.replicate (2 * depth.toNat) ' '

mutual

/-- The lines of one call. -/
def render (mode : PrefixMode) (depth : Int) : Code → List Char
  | element tag attributes children =>
    indent depth ++ (mode.qualifier ++ (tag.toList ++ '(' :: (Literal.attributeList attributes ++
      (", [\n".toList ++ (renderAll mode (depth + 1) children ++
        ('\n' :: (indent depth ++ "])".toList)))))))
  | selfClosing tag attributes =>
    indent depth ++ (mode.qualifier ++ (tag.toList ++
      '(' :: (Literal.attributeList attributes ++ [')'])))
  | rawHtml space tag attributes content =>
    indent depth ++ ("element.unsafe_raw_html(".toList ++ (Literal.quoted space.toList ++
      (", ".toList ++ (Literal.quoted tag.toList ++ (", ".toList ++
        (Literal.attributeList attributes ++ (", ".toList ++
          (Literal.quoted content.toList ++ [')']))))))))
  | text content =>
    indent depth ++ (mode.qualifier ++ ("text(\"".toList ++
      (Literal.textBody content.toList ++ "\")".toList)))

/-- The lines of several calls at one depth. -/
def renderAll (mode : PrefixMode) (depth : Int) : List Code → List Char
  | [] => []
  | [c] => render mode depth c
  | c :: d :: rest =>
    render mode depth c ++ (",\n".toList ++ renderAll mode depth (d :: rest))

end

/-- The printed form of a call at a depth. -/
def print (mode : PrefixMode) (depth : Int) (c : Code) : String :=
  String.ofList (render mode depth c)

/-- The printed form of a list of calls at the outermost level. -/
def printAll (mode : PrefixMode) (cs : List Code) : String :=
  String.ofList (renderAll mode 0 cs)

end Code

end ElementCode
