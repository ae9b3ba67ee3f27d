/-!
# Texts of code points

An escape can name half of a surrogate pair, which is a code point and no character.  A text that
may hold such halves is a list of code points.  To find out what it says each half counts as the
replacement character, and afterwards the halves are put back.
-/

namespace ElementCode.Text

/-- A text that may hold halves of surrogate pairs. -/
abbrev Points := List Nat

namespace Points

/-- The code points of characters. -/
def ofChars (cs : List Char) : Points := cs.map Char.toNat

/-- Whether a code point is a character. -/
def isChar (n : Nat) : Bool := n < 0xD800 || (0xE000 ≤ n && n < 0x110000)

/-- The characters of a text; the replacement character stands for a half. -/
def toChars (ps : Points) : List Char :=
  ps.map fun n => if isChar n then Char.ofNat n else '\ufffd'

/-- Puts halves back: replacement characters become the code points of `marks`, in order. -/
def refill : Points → List Char → Points
  | _, [] => []
  | marks, c :: cs =>
    if c == '\ufffd' then marks.headD 0xFFFD :: refill marks.tail cs
    else c.toNat :: refill marks cs

/-- The text of characters that have been found in another text, in its order and from the first
replacement character on. -/
def restore (source : Points) (cs : List Char) : Points :=
  refill (source.filter fun n => !isChar n || n == 0xFFFD) cs

end Points

end ElementCode.Text
