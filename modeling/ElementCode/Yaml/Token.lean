import ElementCode.Text.Utf8
import ElementCode.Value.Display
import ElementCode.Yaml.Scalar

/-!
# YAML tokens

A YAML text is first cut into tokens.  Indentation becomes tokens too: a block opens where an entry
stands deeper than the block around it and closes before the first line that stands less deep.
Whether a scalar or a collection is a key shows only at the colon after it, so possible keys are
remembered with the number of their first token, and the tokens that announce them are put in
later.  Such a key ends on the line it starts on and within 1024 characters.  A fault in the text
counts only once the tokens that are certain before it have been used, so a scan gives both.
-/

namespace ElementCode.Yaml

/-- A token. -/
inductive Token where
  /-- A directive that gives the version of the format. -/
  | version (major : Nat)
  /-- A directive that gives a handle the text it stands for. -/
  | handle (name text : String)
  /-- Any other directive. -/
  | directive
  | documentStart | documentEnd | streamEnd
  | blockSequenceStart | blockMappingStart | blockEnd
  | flowSequenceStart | flowSequenceEnd
  | flowMappingStart | flowMappingEnd
  | flowEntry | blockEntry
  | key | value
  | alias (name : String)
  | anchor (name : String)
  /-- A tag: a handle, unless it is written out, and what follows the handle. -/
  | tag (handle : Option String) (suffix : String)
  /-- A scalar; a plain one may be something else than text. -/
  | scalar (text : Text.Points) (plain : Bool)
  deriving DecidableEq, Repr

/-! ## Names, tags and directives -/

/-- A name of letters, digits, hyphens and underscores. -/
def readName (p : Place) : Except Error (String × Place) :=
  let (name, p) := p.span inName
  if name.isEmpty then .error .invalid else .ok (String.ofList name, p)

/-- The name of an anchor or alias. -/
def readAnchor (p : Place) : Except Error (String × Place) := do
  let (name, p) ← readName p
  if p.endsOr fun c => endsWord c || "?:,]\x7d%@`".toList.contains c then return (name, p)
  else .error .invalid

/-- The handle of a tag: an exclamation mark, or a name between two. -/
def readHandle (p : Place) : Except Error (String × Place) :=
  match p.rest with
  | '!' :: ' ' :: _ => .ok ("!", p.next)
  | '!' :: rest =>
    let name := rest.takeWhile inName
    if (rest.drop name.length).head? == some '!' then
      .ok (String.ofList ('!' :: name ++ ['!']), p.advance (name.length + 2))
    else .error .invalid
  | _ => .error .invalid

/-- The bytes of a run of percent escapes. -/
def percentBytes : Nat → Place → Except Error (List UInt8 × Place)
  | 0, p => .ok ([], p)
  | fuel + 1, p =>
    match p.rest with
    | '%' :: a :: b :: _ =>
      match Text.hexValue? a, Text.hexValue? b with
      | some x, some y => do
        let (bytes, p) ← percentBytes fuel (p.advance 3)
        return (UInt8.ofNat (16 * x + y) :: bytes, p)
      | _, _ => .error .invalid
    | '%' :: _ => .error .invalid
    | _ => .ok ([], p)

/-- A character of a tag after its handle. -/
def inTag (c : Char) : Bool := c.isAlphanum || "-;/?:@&=+$,_.!~*'()[]".toList.contains c

/-- The text of a tag after its handle, at most `fuel` pieces; percent escapes are resolved. -/
def readTagText : Nat → Place → Except Error (List Char × Place)
  | 0, p => .ok ([], p)
  | fuel + 1, p => do
    let (run, p) := p.span inTag
    if p.has (· == '%') then
      let (bytes, p) ← percentBytes (p.rest.length + 1) p
      let (more, p) ← readTagText fuel p
      match Text.decodeUtf8 bytes with
      | .ok s => return (run ++ s.toList ++ more, p)
      | .error _ => .error .invalid
    else return (run, p)

/-- The text of a tag after its handle, which is not empty. -/
def readTagSuffix (p : Place) : Except Error (String × Place) := do
  let (text, after) ← readTagText (p.rest.length + 1) p
  if after.index == p.index then .error .invalid else return (String.ofList text, after)

/-- Requires a blank, a line break or the end. -/
def requireEnd (p : Place) : Except Error Unit :=
  if p.endsOr fun c => c == ' ' || endsLine c then .ok () else .error .invalid

/-- A tag. -/
def readTag (p : Place) : Except Error (Token × Place) := do
  let (token, p) ← (match p.rest.drop 1 with
    | '<' :: _ => do
      let (suffix, p) ← readTagSuffix (p.advance 2)
      if p.has (· == '>') then return (.tag none suffix, p.next) else .error .invalid
    | rest =>
      if rest.head?.all endsWord then return (.tag none "!", p.next)
      else do
        let word := rest.takeWhile fun c => !(c == ' ' || endsLine c)
        let (handle, p) ← if word.contains '!' then readHandle p else .ok ("!", p.next)
        let (suffix, p) ← readTagSuffix p
        return (.tag (some handle) suffix, p) : Except Error (Token × Place))
  requireEnd p
  return (token, p)

/-- A run of decimal digits as a number.  The number of digits is limited. -/
def readDigits (p : Place) : Except Error (Nat × Place) :=
  let (digits, p) := p.span Plain.isDigit
  if digits.isEmpty then .error .invalid
  else if Display.digitLimit < digits.length then .error (.tooManyDigits digits.length)
  else .ok (digits.foldl (fun n c => 10 * n + (c.toNat - '0'.toNat)) 0, p)

/-- A directive, after its percent sign. -/
def readDirective (p : Place) : Except Error (Token × Place) := do
  let (name, p) ← readName p
  requireEnd p
  let (token, p) ← (match name with
    | "YAML" => do
      let (major, p) ← readDigits (p.skip (· == ' '))
      if !p.has (· == '.') then .error .invalid
      else
        let (_, p) ← readDigits p.next
        requireEnd p
        return (.version major, p)
    | "TAG" => do
      let (handle, p) ← readHandle (p.skip (· == ' '))
      if !p.has (· == ' ') then .error .invalid
      else
        let (text, p) ← readTagSuffix (p.skip (· == ' '))
        requireEnd p
        return (.handle handle text, p)
    | _ => return (.directive, p.skip (!endsLine ·)) : Except Error (Token × Place))
  let p ← p.endOfLine
  return (token, p)

/-! ## Cutting a text into tokens -/

/-- What may turn out to be a key. -/
structure PossibleKey where
  /-- The depth of flow collections at which it stands. -/
  level : Nat
  /-- The number of its first token. -/
  number : Nat
  /-- Whether it has to be a key, because it starts an entry of a block. -/
  required : Bool
  /-- Where it starts. -/
  place : Place

/-- Whether a possible key is no key, because it has grown too long up to a place. -/
def PossibleKey.isStale (k : PossibleKey) (p : Place) : Bool :=
  k.place.line != p.line || 1024 < p.index - k.place.index

/-- The tokens of a text, up to the first fault if there is one. -/
structure Scan where
  /-- The tokens. -/
  tokens : List Token
  /-- What is wrong with the text after them. -/
  fault : Option Error

/-- The state of the cutting. -/
structure Cutter where
  /-- The place reached. -/
  place : Place
  /-- The tokens so far. -/
  tokens : Array Token := #[]
  /-- How many flow collections are open. -/
  flow : Nat := 0
  /-- The column of the innermost block, or -1 outside all. -/
  indent : Int := -1
  /-- The columns of the blocks around it. -/
  indents : List Int := []
  /-- Whether a key may start here. -/
  mayStart : Bool := true
  /-- The possible keys, one at most for a depth. -/
  keys : List PossibleKey := []

namespace Cutter

/-- Adds a token. -/
def push (c : Cutter) (t : Token) : Cutter := { c with tokens := c.tokens.push t }

/-- Puts a token in before the token with a number. -/
def insert (c : Cutter) (number : Nat) (t : Token) : Cutter :=
  { c with tokens :=
      (c.tokens.extract 0 number).push t ++ c.tokens.extract number c.tokens.size }

/-- Gives up possible keys that have grown too long. -/
def dropStale (c : Cutter) : Except Error Cutter :=
  if c.keys.any fun k => k.isStale c.place && k.required then .error .invalid
  else .ok { c with keys := c.keys.filter (!·.isStale c.place) }

/-- Gives up the possible key at the current depth. -/
def dropKey (c : Cutter) : Except Error Cutter :=
  if c.keys.any fun k => k.level == c.flow && k.required then .error .invalid
  else .ok { c with keys := c.keys.filter (·.level != c.flow) }

/-- Remembers the place as that of a possible key. -/
def saveKey (c : Cutter) : Except Error Cutter :=
  if c.mayStart then do
    let required := c.flow == 0 && c.indent == c.place.column
    let c ← c.dropKey
    return { c with keys := ⟨c.flow, c.tokens.size, required, c.place⟩ :: c.keys }
  else .ok c

/-- Closes the blocks that stand deeper than a column. -/
def closeBlocks (c : Cutter) (column : Int) : Cutter :=
  if c.flow != 0 then c else go (c.indents.length) c
where
  /-- Closes at most `fuel` blocks. -/
  go : Nat → Cutter → Cutter
  | 0, c => c
  | fuel + 1, c =>
    if column < c.indent then
      match c.indents with
      | indent :: indents => go fuel { c.push .blockEnd with indent, indents }
      | [] => c
    else c

/-- Opens a block at a column that is deeper than the block around it. -/
def openBlock (c : Cutter) (column : Nat) (t : Token) (number : Nat) : Cutter :=
  if c.indent < column then
    { c.insert number t with indent := column, indents := c.indent :: c.indents }
  else c

/-- Closes all blocks, as before a directive or at the start or end of a document. -/
def leaveBlocks (c : Cutter) : Except Error Cutter := do
  let c ← (c.closeBlocks (-1)).dropKey
  return { c with mayStart := false }

/-- Adds a token of some characters. -/
def take (c : Cutter) (n : Nat) (t : Token) : Cutter :=
  { c.push t with place := c.place.advance n }

/-- An entry of a block: it may open one, and a key may follow. -/
def blockMark (c : Cutter) (opening mark : Token) (mayStart : Bool) : Except Error Cutter := do
  if c.flow == 0 && !c.mayStart then .error .invalid
  else
    let c := if c.flow == 0 then c.openBlock c.place.column opening c.tokens.size else c
    let c ← { c with mayStart }.dropKey
    return c.take 1 mark

/-- The colon before a value.  It makes the possible key at this depth a key. -/
def valueMark (c : Cutter) : Except Error Cutter :=
  match c.keys.find? (·.level == c.flow) with
  | some k =>
    let c := { c with keys := c.keys.filter (·.level != c.flow), mayStart := false }
    let c := c.insert k.number .key
    let c := if c.flow == 0 then c.openBlock k.place.column .blockMappingStart k.number else c
    .ok (c.take 1 .value)
  | none => c.blockMark .blockMappingStart .value (c.flow == 0)

/-- Adds a token that may start a key and after which none may start. -/
def content (c : Cutter) (read : Place → Except Error (Token × Place)) : Except Error Cutter := do
  let c ← c.saveKey
  let (t, place) ← read c.place
  return { c.push t with place, mayStart := false }

/-- The start of a flow collection. -/
def openFlow (c : Cutter) (t : Token) : Except Error Cutter := do
  let c ← c.saveKey
  return { c with flow := c.flow + 1, mayStart := true }.take 1 t

/-- The end of a flow collection. -/
def closeFlow (c : Cutter) (t : Token) : Except Error Cutter := do
  let c ← c.dropKey
  if c.flow == 0 then .error .invalid
  else return { c with flow := c.flow - 1, mayStart := false }.take 1 t

/-- A plain scalar. -/
def plain (c : Cutter) : Except Error Cutter := do
  let c ← c.saveKey
  let (text, place, mayStart) :=
    plainScalar (c.flow != 0) (c.indent + 1) (c.place.rest.length + 1) c.place [] [] false
  return { c.push (.scalar (.ofChars text) true) with place, mayStart }

/-- A block scalar. -/
def block (c : Cutter) (folded : Bool) : Except Error Cutter := do
  let c ← { c with mayStart := true }.dropKey
  let (text, place) ← blockScalar folded c.indent c.place.next
  return { c.push (.scalar (.ofChars text) false) with place }

/-- A quoted scalar. -/
def quoted (quote : Char) (p : Place) : Except Error (Token × Place) := do
  let (text, p) ← quotedScalar quote (p.rest.length + 1) p.next []
  return (.scalar text false, p)

/-- Whether a plain scalar starts at the place. -/
def startsPlain (c : Cutter) (first : Char) : Bool :=
  !(endsWord first || "-?:,[]\x7b\x7d#&*!|>'\"%@`".toList.contains first) ||
    (!c.place.endsOr endsWord 1 &&
      (first == '-' || (c.flow == 0 && (first == '?' || first == ':'))))

/-- Adds the next token; says whether it was the last one. -/
def step (c : Cutter) : Except Error (Cutter × Bool) := do
  let (place, crossed) := c.place.toNextToken
  let c := { c with place, mayStart := c.mayStart || (crossed && c.flow == 0) }
  let c ← c.dropStale
  let c := c.closeBlocks c.place.column
  let blankAfter := c.place.endsOr endsWord 1
  let more (r : Except Error Cutter) : Except Error (Cutter × Bool) := r.map (·, false)
  match c.place.rest with
  | [] =>
    let c ← c.leaveBlocks
    return (c.push .streamEnd, true)
  | first :: _ =>
    if c.place.column == 0 && first == '%' then
      let c ← c.leaveBlocks
      let (t, place) ← readDirective c.place.next
      return ({ c.push t with place }, false)
    else if c.place.column == 0 && c.place.atSeparator then
      let c ← c.leaveBlocks
      return (c.take 3 (if first == '-' then .documentStart else .documentEnd), false)
    else
      match first with
      | '[' => more (c.openFlow .flowSequenceStart)
      | '\x7b' => more (c.openFlow .flowMappingStart)
      | ']' => more (c.closeFlow .flowSequenceEnd)
      | '\x7d' => more (c.closeFlow .flowMappingEnd)
      | ',' => do
        let c ← { c with mayStart := true }.dropKey
        return (c.take 1 .flowEntry, false)
      | '*' => more (c.content fun p => do
        let (name, p) ← readAnchor p.next
        return (.alias name, p))
      | '&' => more (c.content fun p => do
        let (name, p) ← readAnchor p.next
        return (.anchor name, p))
      | '!' => more (c.content readTag)
      | '\'' => more (c.content (quoted '\''))
      | '"' => more (c.content (quoted '"'))
      | first =>
        if first == '-' && blankAfter then
          more (c.blockMark .blockSequenceStart .blockEntry true)
        else if first == '?' && (c.flow != 0 || blankAfter) then
          more (c.blockMark .blockMappingStart .key (c.flow == 0))
        else if first == ':' && (c.flow != 0 || blankAfter) then more c.valueMark
        else if (first == '|' || first == '>') && c.flow == 0 then more (c.block (first == '>'))
        else if c.startsPlain first then more c.plain
        else .error .invalid

/-- The tokens that are certain: those before the first possible key.  What comes after it may still
have to make room for the tokens that announce a key. -/
def settled (c : Cutter) : List Token :=
  let possible := c.keys.filter (!·.isStale c.place)
  (c.tokens.extract 0 (possible.foldl (fun n k => min n k.number) c.tokens.size)).toList

/-- Adds all tokens, at most `fuel` of them.  At a fault only the certain ones count. -/
def run : Nat → Cutter → Scan
  | 0, c => ⟨c.settled, some .invalid⟩
  | fuel + 1, c =>
    match c.step with
    | .error e => ⟨c.settled, some e⟩
    | .ok (c, true) => ⟨c.tokens.toList, none⟩
    | .ok (c, false) => run fuel c

end Cutter

/-- The tokens of a text.  A byte order mark at its start is skipped. -/
def Scan.ofText (text : List Char) : Scan :=
  if text.all isPrintable then
    let start : Place := ⟨text, 0, 0, 0⟩
    let place := if start.has (· == '\ufeff') then start.next else start
    Cutter.run (text.length + 2) { place }
  else ⟨[], some .invalid⟩

end ElementCode.Yaml
