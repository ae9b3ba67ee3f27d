/-!
# Line endings

A text read from a file or given to the Markdown reader ends its lines with a line feed: a
carriage return, alone or before a line feed, counts as one line ending.
-/

namespace ElementCode.Text

/-- Every line ending becomes one line feed. -/
def unifyNewlines : List Char → List Char
  | [] => []
  | '\r' :: '\n' :: cs => '\n' :: unifyNewlines cs
  | '\r' :: cs => '\n' :: unifyNewlines cs
  | c :: cs => c :: unifyNewlines cs

end ElementCode.Text
