import ElementCode.Text.Hex

/-!
# String literals of the generated code

The generated code holds three kinds of string literals.  Text arguments escape the double quote
only; the content of code blocks has its backslashes doubled before it becomes a text argument;
attribute values and raw HTML are written in a form that also escapes control characters and is
free of them.  All three are maps on characters.
-/

namespace ElementCode.Literal

/-- One character of a text argument: a double quote is escaped, all else stands for itself. -/
def textChar (c : Char) : List Char :=
  if c == '"' then ['\\', '"'] else [c]

/-- The body of a text argument. -/
def textBody (cs : List Char) : List Char := cs.flatMap textChar

/-- One character of code content: a backslash is doubled. -/
def doubledChar (c : Char) : List Char :=
  if c == '\\' then ['\\', '\\'] else [c]

/-- Code content with every backslash doubled. -/
def doubled (cs : List Char) : List Char := cs.flatMap doubledChar

/-- One character of a quoted string: quotes, backslashes and control characters are escaped. -/
def quotedChar (c : Char) : List Char :=
  if c == '\\' then ['\\', '\\']
  else if c == '"' then ['\\', '"']
  else if c == '\n' then ['\\', 'n']
  else if c == '\r' then ['\\', 'r']
  else if c == '\t' then ['\\', 't']
  else if c == '\x0c' then ['\\', 'f']
  else if c.toNat < 0x20 || c.toNat == 0x7F then
    ['\\', 'u', '\x7b'] ++ Text.hexPad true 4 c.toNat ++ ['\x7d']
  else [c]

/-- The body of a quoted string. -/
def quotedBody (cs : List Char) : List Char := cs.flatMap quotedChar

/-- A quoted string with its quotes. -/
def quoted (cs : List Char) : List Char := '"' :: (quotedBody cs ++ ['"'])

/-- One attribute: its constructor applied to the quoted value. -/
def attributeCall (a : String × String) : List Char :=
  "attribute.".toList ++ a.1.toList ++ '(' :: (quoted a.2.toList ++ [')'])

/-- An attribute list.  The attributes stand side by side without a separator. -/
def attributeList (attributes : List (String × String)) : List Char :=
  '[' :: (attributes.flatMap attributeCall ++ [']'])

end ElementCode.Literal
