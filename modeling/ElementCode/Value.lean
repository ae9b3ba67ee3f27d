import ElementCode.Text.Points

/-!
# Plain values

The values that configuration files, tagged data and loosely typed documents are made of: scalars,
sequences, mappings, and nodes that carry the name of their kind.  A mapping keeps its entries in
the order in which they were written.
-/

namespace ElementCode

/-- A calendar date. -/
structure Date where
  /-- The year, from 1 to 9999. -/
  year : Nat
  /-- The month, from 1 to 12. -/
  month : Nat
  /-- The day of the month. -/
  day : Nat
  deriving DecidableEq, Repr

/-- A date with a time of day and, perhaps, the distance from universal time in seconds. -/
structure Moment where
  /-- The date. -/
  date : Date
  /-- The hour, from 0 to 23. -/
  hour : Nat
  /-- The minute, from 0 to 59. -/
  minute : Nat
  /-- The second, from 0 to 59. -/
  second : Nat
  /-- The microsecond. -/
  micro : Nat
  /-- The distance from universal time in seconds, when one was written. -/
  offset : Option Int
  deriving DecidableEq, Repr

/-- A plain value. -/
inductive Value where
  | null
  | bool (b : Bool)
  | int (n : Int)
  | float (x : Float)
  | str (s : String)
  /-- A text that holds halves of surrogate pairs. -/
  | wide (points : Text.Points)
  | bytes (b : List UInt8)
  | date (d : Date)
  | moment (m : Moment)
  | list (items : List Value)
  | tuple (items : List Value)
  | set (items : List Value)
  | dict (entries : List (Value × Value))
  /-- A mapping or list around this place, which holds itself. -/
  | enclosing (mapping : Bool)
  | node (kind : String) (fields : List (String × Value))
  deriving Inhabited

namespace Value

/-- The name of a value's class, as a rejection reports it. -/
def className : Value → String
  | null => "NoneType"
  | bool _ => "bool"
  | int _ => "int"
  | float _ => "float"
  | str _ | wide _ => "str"
  | bytes _ => "bytes"
  | date _ => "date"
  | moment _ => "datetime"
  | list _ => "list"
  | tuple _ => "tuple"
  | set _ => "set"
  | dict _ => "dict"
  | enclosing mapping => if mapping then "dict" else "list"
  | node kind _ => kind

/-- Whether a value counts as present: null, false, zero and everything empty do not. -/
def isTruthy : Value → Bool
  | null => false
  | bool b => b
  | int n => n != 0
  | float x => x != 0.0
  | str s => !s.isEmpty
  | wide points => !points.isEmpty
  | bytes b => !b.isEmpty
  | date _ => true
  | moment _ => true
  | list items => !items.isEmpty
  | tuple items => !items.isEmpty
  | set items => !items.isEmpty
  | dict entries => !entries.isEmpty
  | enclosing _ => true
  | node _ _ => true

/-- What going through a value gives, apart from a list, tuple or set: the characters of a text, the
numbers of bytes, the keys of a mapping.  Any other value cannot be gone through. -/
def elements? : Value → Option (List Value)
  | str s => some (s.toList.map fun c => str (String.singleton c))
  | wide points => some (points.map fun n =>
      if Text.Points.isChar n then str (String.singleton (Char.ofNat n)) else wide [n])
  | bytes b => some (b.map fun n => int n.toNat)
  | dict entries => some (entries.map Prod.fst)
  | _ => none

/-- The entry of a mapping under a string key. -/
def lookup (key : String) : List (Value × Value) → Option Value
  | [] => none
  | (str k, v) :: rest => if k == key then some v else lookup key rest
  | _ :: rest => lookup key rest

/-- The field of a node. -/
def field (name : String) : List (String × Value) → Option Value
  | [] => none
  | (k, v) :: rest => if k == name then some v else field name rest

end Value

end ElementCode
