/-!
# Source text

The text being parsed, as an array of characters addressed by position.  Blocks and inlines both
look at it through ranges of positions.
-/

namespace ElementCode.Markdown

/-- The text being parsed. -/
abbrev Source := Array Char

/-- A space or a tab. -/
def isSpace (c : Char) : Bool := c == ' ' || c == '\t'

namespace Source

/-- The characters from position `start` to before `stop`. -/
def slice (src : Source) (start stop : Nat) : List Char := (src.extract start stop).toList

/-- The first position from `pos` on, at most `stop`, whose character does not satisfy `p`. -/
def skipWhile (src : Source) (p : Char → Bool) (pos stop : Nat) : Nat :=
  if pos < stop then
    match src[pos]? with
    | some c => if p c then skipWhile src p (pos + 1) stop else pos
    | none => pos
  else pos
termination_by stop - pos

/-- The least position from `least` on such that all characters from it to before `pos` satisfy
`p`. -/
def skipBack (src : Source) (p : Char → Bool) (least : Nat) : Nat → Nat
  | 0 => 0
  | pos + 1 =>
    if least < pos + 1 then
      match src[pos]? with
      | some c => if p c then skipBack src p least pos else pos + 1
      | none => pos + 1
    else pos + 1

end Source

end ElementCode.Markdown
