import ElementCode.Document.Data
import ElementCode.Proofs.Mapping

/-!
# Where the mapping of a document stops

Mapping a document to code follows the blocks and inlines in reading order and stops at the first
one that has no constructor, or at a heading whose level cannot be written.  This module says which
one that is without the mapping: `Visit.blocks` lists the positions that are visited, each with the
value that stands there, and a position is expressible or not by the name of the class of its value.

Documents are read from data that nobody has checked, so the statement is about loose values: any
node or plain value may stand at any position, and anything may be the level of a heading.  Only the
lists and texts of the nodes have to be lists and texts (`Value.isTyped`).
`Document.toCode_ofValues` says that such a document is mapped exactly when the mapping can go on at
all positions, and that otherwise the first one where it cannot decides.
-/

namespace ElementCode

/-! ## Declared fields -/

/-- What a field of a node is declared to hold. -/
inductive FieldType where
  | text
  | optionalText
  /-- A list of nodes, of any kind. -/
  | nodes
  /-- A list of lists of nodes. -/
  | items
  /-- One value of any kind. -/
  | value
  deriving DecidableEq, Repr

/-- Whether a value is a list. -/
def Value.isList : Value → Bool
  | .list _ => true
  | _ => false

/-- Whether a field may hold a value.  Only lists and texts are looked at. -/
def FieldType.admits : FieldType → Value → Bool
  | text, .str _ => true
  | optionalText, .null => true
  | optionalText, .str _ => true
  | nodes, .list _ => true
  | items, .list vs => vs.all Value.isList
  | value, _ => true
  | _, _ => false

/-- The declared fields of the nodes of each kind that documents are made of. -/
def fieldTypes : String → Option (List (String × FieldType))
  | "Paragraph" => some [("inline", .nodes)]
  | "Heading" => some [("level", .value), ("inline", .nodes)]
  | "BulletList" => some [("items", .items)]
  | "CodeBlock" => some [("language", .optionalText), ("content", .text)]
  | "BlockQuote" => some [("blocks", .nodes)]
  | "RawBlock" => some [("content", .text)]
  | "ThematicBreak" => some []
  | "Text" => some [("text", .text)]
  | "Emphasis" => some [("inline", .nodes)]
  | "Strong" => some [("inline", .nodes)]
  | "Code" => some [("text", .text)]
  | "Link" => some [("inline", .nodes), ("destination", .value)]
  | "Image" => some [("inline", .nodes), ("destination", .value)]
  | "Footnote" => some [("reference", .text)]
  | "Linebreak" => some []
  | "MathInline" => some [("latex", .text)]
  | "MathDisplay" => some [("latex", .text)]
  | "NonBreakingSpace" => some []
  | "Url" => some [("url", .text)]
  | "Reference" => some [("name", .text)]
  | _ => none

/-- Whether the fields of a node are the declared ones, in order. -/
def fieldsMatch : List (String × FieldType) → List (String × Value) → Bool
  | [], [] => true
  | (name, type) :: types, (key, v) :: fields =>
    key == name && type.admits v && fieldsMatch types fields
  | _, _ => false

/-- Whether a node has the fields that are declared for its kind. -/
def hasDeclaredFields (kind : String) (fields : List (String × Value)) : Bool :=
  match fieldTypes kind with
  | some types => fieldsMatch types fields
  | none => true

namespace Value

mutual

/-- Whether all nodes in a value have the fields that are declared for their kind. -/
def isTyped : Value → Bool
  | node kind fields => hasDeclaredFields kind fields && fieldsTyped fields
  | list items => allTyped items
  | _ => true

/-- Whether all nodes in a list of values have the fields that are declared for their kind. -/
def allTyped : List Value → Bool
  | [] => true
  | v :: rest => isTyped v && allTyped rest

/-- Whether all nodes in fields have the fields that are declared for their kind. -/
def fieldsTyped : List (String × Value) → Bool
  | [] => true
  | (_, v) :: rest => isTyped v && fieldsTyped rest

end

end Value

/-! ## Integers in a value -/

namespace Value

mutual

/-- The integers that the text of a value shows. -/
def integers : Value → List Int
  | .int n => [n]
  | .list items | .tuple items | .set items => integersAll items
  | .dict entries => integersEntries entries
  | .node _ fields => integersFields fields
  | _ => []

/-- The integers in a sequence. -/
def integersAll : List Value → List Int
  | [] => []
  | v :: rest => integers v ++ integersAll rest

/-- The integers in the entries of a mapping. -/
def integersEntries : List (Value × Value) → List Int
  | [] => []
  | (k, v) :: rest => integers k ++ integers v ++ integersEntries rest

/-- The integers in the fields of a node. -/
def integersFields : List (String × Value) → List Int
  | [] => []
  | (_, v) :: rest => integers v ++ integersFields rest

end

/-- Whether all of some integers have few enough digits. -/
def areShort (ns : List Int) : Bool := ns.all fun n => n.natAbs < 10 ^ Display.digitLimit

lemma areShort_append (ns ms : List Int) : areShort (ns ++ ms) = (areShort ns && areShort ms) :=
  List.all_append

mutual

/-- A value can be shown when its integers have few enough digits. -/
lemma isShowable_eq_areShort : (v : Value) → v.isShowable = areShort v.integers
  | .int n => by simp [isShowable, integers, areShort]
  | .list items | .tuple items | .set items => by
    rw [isShowable, integers, areShowable_eq_areShort items]
  | .dict entries => by rw [isShowable, integers, entriesShowable_eq_areShort entries]
  | .node _ fields => by rw [isShowable, integers, fieldsShowable_eq_areShort fields]
  | .null | .bool _ | .float _ | .str _ | .wide _ | .bytes _ | .date _ | .moment _
  | .enclosing _ => by simp [isShowable, integers, areShort]

lemma areShowable_eq_areShort : (vs : List Value) → areShowable vs = areShort (integersAll vs)
  | [] => rfl
  | v :: rest => by
    rw [areShowable, integersAll, areShort_append, isShowable_eq_areShort v,
      areShowable_eq_areShort rest]

lemma entriesShowable_eq_areShort : (entries : List (Value × Value)) →
    entriesShowable entries = areShort (integersEntries entries)
  | [] => rfl
  | (k, v) :: rest => by
    rw [entriesShowable, integersEntries, areShort_append, areShort_append,
      isShowable_eq_areShort k, isShowable_eq_areShort v, entriesShowable_eq_areShort rest]

lemma fieldsShowable_eq_areShort : (fields : List (String × Value)) →
    fieldsShowable fields = areShort (integersFields fields)
  | [] => rfl
  | (_, v) :: rest => by
    rw [fieldsShowable, integersFields, areShort_append, isShowable_eq_areShort v,
      fieldsShowable_eq_areShort rest]

end

end Value

/-! ## Visited positions -/

/-- A position that the mapping visits, with the value that stands there. -/
inductive Visit where
  | block (v : Value)
  | inline (v : Value)

namespace Visit

/-- The kinds of blocks that have a constructor. -/
def blockKinds : List String :=
  ["Paragraph", "Heading", "BulletList", "CodeBlock", "ThematicBreak", "RawBlock"]

/-- The kinds of inlines that have a constructor. -/
def inlineKinds : List String := ["Text", "Code", "Emphasis", "Strong"]

/-- The kinds of inlines that have a constructor when they point to a URL. -/
def pointingKinds : List String := ["Link", "Image"]

/-- Whether a node points to a URL. -/
def pointsToUrl : Value → Bool
  | .node _ fields => (Value.field "destination" fields).any (·.className == "Url")
  | _ => false

/-- Whether the value at a position has a constructor. -/
def isExpressible : Visit → Bool
  | block v => v.className ∈ blockKinds
  | inline v => v.className ∈ inlineKinds || (v.className ∈ pointingKinds && pointsToUrl v)

/-- Whether what is written of a position can be written: no integer in the level of a heading has
too many digits. -/
def isWritable : Visit → Bool
  | block (.node "Heading" fields) =>
    (Value.field "level" fields).all fun level => Value.areShort level.integers
  | _ => true

/-- How a position is named when the value there has no constructor: by the class of the value, and
for links and images by what is wrong with them. -/
def rejection : Visit → Rejection
  | block v => ⟨v.className, none⟩
  | inline v =>
    ⟨v.className, if v.className ∈ pointingKinds then some "reference destination" else none⟩

/-- Whether the mapping goes on at a position. -/
def passes (p : Visit) : Bool := p.isExpressible && p.isWritable

/-- The error at a position where the mapping does not go on. -/
def failure (p : Visit) : MappingError :=
  if p.isExpressible then .longLevel else .rejected p.rejection

mutual

/-- The positions that are visited within an inline: spans are entered, and links to a URL, but not
images. -/
def insideInline : Value → List Visit
  | .node "Emphasis" [("inline", .list is)] => inlines is
  | .node "Strong" [("inline", .list is)] => inlines is
  | .node "Link" [("inline", .list is), ("destination", .node "Url" _)] => inlines is
  | _ => []

/-- The positions that are visited in a list of inlines, in reading order. -/
def inlines : List Value → List Visit
  | [] => []
  | v :: rest => .inline v :: (insideInline v ++ inlines rest)

end

mutual

/-- The positions that are visited within a block: running text and lists are entered, but not
block quotes. -/
def insideBlock : Value → List Visit
  | .node "Paragraph" [("inline", .list is)] => inlines is
  | .node "Heading" [("level", _), ("inline", .list is)] => inlines is
  | .node "BulletList" [("items", .list vs)] => items vs
  | _ => []

/-- The positions that are visited in a list of blocks, in reading order. -/
def blocks : List Value → List Visit
  | [] => []
  | v :: rest => .block v :: (insideBlock v ++ blocks rest)

/-- The positions that are visited in the items of a list, in reading order. -/
def items : List Value → List Visit
  | [] => []
  | .list vs :: rest => blocks vs ++ items rest
  | _ :: rest => items rest

end

/-- The error at the first position where the mapping does not go on. -/
def firstFailure (ps : List Visit) : Option MappingError :=
  (ps.find? fun p => !p.passes).map failure

lemma firstFailure_append (ps qs : List Visit) :
    firstFailure (ps ++ qs) = (firstFailure ps).or (firstFailure qs) := by
  rw [firstFailure, List.find?_append, Option.map_or]
  rfl

lemma firstFailure_cons_of_passes {p : Visit} (h : p.passes) (ps : List Visit) :
    firstFailure (p :: ps) = firstFailure ps := by
  rw [firstFailure, List.find?_cons_of_neg (by simp [h])]
  rfl

lemma firstFailure_cons_of_not {p : Visit} (h : p.isExpressible = false) (ps : List Visit) :
    firstFailure (p :: ps) = some (.rejected p.rejection) := by
  rw [firstFailure, List.find?_cons_of_pos (by simp [passes, h]), Option.map_some, failure, h]
  rfl

end Visit

/-! ## What typed nodes look like -/

section Typed

variable {name kind : String} {types : List (String × FieldType)} {type : FieldType} {v : Value}
  {fields : List (String × Value)}

@[simp] lemma fieldsMatch_nil_iff : fieldsMatch [] fields ↔ fields = [] := by
  cases fields <;> simp [fieldsMatch]

@[simp] lemma fieldsMatch_cons_iff : fieldsMatch ((name, type) :: types) fields ↔
    ∃ v rest, fields = (name, v) :: rest ∧ type.admits v ∧ fieldsMatch types rest := by
  cases fields with
  | nil => simp [fieldsMatch]
  | cons field rest =>
    obtain ⟨key, v⟩ := field
    simp only [fieldsMatch, Bool.and_eq_true, beq_iff_eq, List.cons.injEq, Prod.mk.injEq]
    constructor
    · rintro ⟨⟨rfl, hv⟩, hrest⟩
      exact ⟨v, rest, ⟨⟨rfl, rfl⟩, rfl⟩, hv, hrest⟩
    · rintro ⟨v, rest, ⟨⟨rfl, rfl⟩, rfl⟩, hv, hrest⟩
      exact ⟨⟨rfl, hv⟩, hrest⟩

@[simp] lemma admits_text_iff : FieldType.text.admits v ↔ ∃ s, v = .str s := by
  cases v <;> simp [FieldType.admits]

@[simp] lemma admits_optionalText_iff :
    FieldType.optionalText.admits v ↔ v = .null ∨ ∃ s, v = .str s := by
  cases v <;> simp [FieldType.admits]

@[simp] lemma admits_nodes_iff : FieldType.nodes.admits v ↔ ∃ vs, v = .list vs := by
  cases v <;> simp [FieldType.admits]

@[simp] lemma admits_items_iff :
    FieldType.items.admits v ↔ ∃ vs, v = .list vs ∧ vs.all Value.isList := by
  cases v <;> simp [FieldType.admits]

@[simp] lemma admits_value : FieldType.value.admits v := by
  cases v <;> rfl

/-- A typed value of a class with declared fields is a node that has them. -/
lemma exists_fields_of_className (hv : v.isTyped) (hkind : v.className = kind)
    (htypes : fieldTypes kind = some types) :
    ∃ fields, v = .node kind fields ∧ fieldsMatch types fields := by
  cases v with
  | node k fields =>
    obtain rfl : k = kind := hkind
    rw [Value.isTyped, Bool.and_eq_true, hasDeclaredFields, htypes] at hv
    exact ⟨fields, rfl, hv.1⟩
  -- No fields are declared for the classes of plain values.
  | enclosing mapping =>
    subst hkind
    cases mapping <;> exact absurd htypes.symm (Option.some_ne_none types)
  | _ =>
    subst hkind
    exact absurd htypes.symm (Option.some_ne_none types)

/-- A typed value of a class with one text field. -/
lemma exists_text_of_className (hv : v.isTyped) (hkind : v.className = kind)
    (htypes : fieldTypes kind = some [(name, .text)]) : ∃ s, v = .node kind [(name, .str s)] := by
  obtain ⟨fields, rfl, hfields⟩ := exists_fields_of_className hv hkind htypes
  simpa using hfields

/-- A typed value of a class with one field for nodes. -/
lemma exists_nodes_of_className (hv : v.isTyped) (hkind : v.className = kind)
    (htypes : fieldTypes kind = some [(name, .nodes)]) :
    ∃ vs, v = .node kind [(name, .list vs)] := by
  obtain ⟨fields, rfl, hfields⟩ := exists_fields_of_className hv hkind htypes
  simpa using hfields

/-- A typed list of items. -/
lemma exists_items_of_className (hv : v.isTyped) (hkind : v.className = "BulletList") :
    ∃ vs, v = .node "BulletList" [("items", .list vs)] ∧ vs.all Value.isList := by
  obtain ⟨fields, rfl, hfields⟩ := exists_fields_of_className hv hkind rfl
  simpa using hfields

/-- A typed heading. -/
lemma exists_level_of_className (hv : v.isTyped) (hkind : v.className = "Heading") :
    ∃ level vs, v = .node "Heading" [("level", level), ("inline", .list vs)] := by
  obtain ⟨fields, rfl, hfields⟩ := exists_fields_of_className hv hkind rfl
  simpa using hfields

/-- A typed code block, which may have a language. -/
lemma exists_language_of_className (hv : v.isTyped) (hkind : v.className = "CodeBlock") :
    ∃ s, v = .node "CodeBlock" [("language", .null), ("content", .str s)] ∨
      ∃ l, v = .node "CodeBlock" [("language", .str l), ("content", .str s)] := by
  obtain ⟨fields, rfl, hfields⟩ := exists_fields_of_className hv hkind rfl
  simp only [fieldsMatch_cons_iff, fieldsMatch_nil_iff, admits_optionalText_iff,
    admits_text_iff] at hfields
  obtain ⟨_, _, rfl, hlanguage, _, _, rfl, ⟨s, rfl⟩, rfl⟩ := hfields
  rcases hlanguage with rfl | ⟨l, rfl⟩
  · exact ⟨s, .inl rfl⟩
  · exact ⟨s, .inr ⟨l, rfl⟩⟩

/-- A typed link or image. -/
lemma exists_destination_of_className (hv : v.isTyped) (hkind : v.className = kind)
    (htypes : fieldTypes kind = some [("inline", .nodes), ("destination", .value)]) :
    ∃ vs d, v = .node kind [("inline", .list vs), ("destination", d)] := by
  obtain ⟨fields, rfl, hfields⟩ := exists_fields_of_className hv hkind htypes
  simpa using hfields

end Typed

/-! ## The mapping stops at the first offence -/

open Visit

/-- A typed destination is a URL, or it is of another class and gives no URL. -/
lemma destination_cases {d : Value} (hd : d.isTyped) :
    (∃ s, d = .node "Url" [("url", .str s)]) ∨
      d.className ≠ "Url" ∧ ∀ s, Destination.ofValue d ≠ .url s := by
  by_cases hkind : d.className = "Url"
  · exact .inl (exists_text_of_className hd hkind rfl)
  · refine .inr ⟨hkind, fun s hs => ?_⟩
    unfold Destination.ofValue at hs
    split at hs
    · exact hkind rfl
    · exact absurd hs (by simp)
    · exact absurd hs (by simp)

lemma Value.fields_of_isTyped {kind : String} {fields : List (String × Value)}
    (h : (Value.node kind fields).isTyped) : Value.fieldsTyped fields := by
  rw [Value.isTyped, Bool.and_eq_true] at h
  exact h.2

lemma Value.fieldsTyped_cons {name : String} {v : Value} {rest : List (String × Value)} :
    Value.fieldsTyped ((name, v) :: rest) ↔ v.isTyped ∧ Value.fieldsTyped rest := by
  rw [Value.fieldsTyped, Bool.and_eq_true]

lemma Value.allTyped_cons {v : Value} {rest : List Value} :
    Value.allTyped (v :: rest) ↔ v.isTyped ∧ Value.allTyped rest := by
  rw [Value.allTyped, Bool.and_eq_true]

/-- An inline whose class has no constructor. -/
lemma firstFailure_inline_of_notMem {v : Value} (hv : v.className ∉ inlineKinds)
    (hpointing : v.className ∉ pointingKinds) (ps : List Visit) :
    firstFailure (.inline v :: ps) = some (.unsupported v.className) := by
  rw [firstFailure_cons_of_not (by simp [isExpressible, hv, hpointing]), rejection,
    if_neg hpointing]
  rfl

/-- A link or an image that does not point to a URL. -/
lemma firstFailure_pointing {kind : String} (hkind : kind ∈ pointingKinds) {is d : Value}
    (hd : d.className ≠ "Url") (ps : List Visit) :
    firstFailure (.inline (.node kind [("inline", is), ("destination", d)]) :: ps) =
      some (.rejected (.ofDestination kind)) := by
  have hnot : pointsToUrl (.node kind [("inline", is), ("destination", d)]) = false := by
    simp [pointsToUrl, Value.field, hd]
  have hinline : kind ∉ inlineKinds := by
    intro hmem
    simp only [pointingKinds, inlineKinds, List.mem_cons, List.not_mem_nil, or_false] at hkind hmem
    rcases hkind with rfl | rfl <;> simp at hmem
  rw [firstFailure_cons_of_not (by simp [isExpressible, Value.className, hinline, hnot]),
    rejection, Value.className, if_pos hkind]
  rfl

lemma failure?_toCode_link {items : List Value} {is : List Inline} {d : Value} (hd : d.isTyped)
    (ih : failure? (Inline.toCodeAll is) = firstFailure (inlines items)) :
    failure? (Inline.link is (.ofValue d)).toCode =
      firstFailure (.inline (.node "Link" [("inline", .list items), ("destination", d)]) ::
        insideInline (.node "Link" [("inline", .list items), ("destination", d)])) := by
  rcases destination_cases hd with ⟨s, rfl⟩ | ⟨hurl, hdestination⟩
  · rw [firstFailure_cons_of_passes rfl, insideInline, ← ih]
    exact failure?_map _ _
  · rw [firstFailure_pointing (by decide) hurl, Inline.toCode]
    · rfl
    · exact hdestination

lemma failure?_toCode_image {items : List Value} {is : List Inline} {d : Value} (hd : d.isTyped) :
    failure? (Inline.image is (.ofValue d)).toCode =
      firstFailure (.inline (.node "Image" [("inline", .list items), ("destination", d)]) ::
        insideInline (.node "Image" [("inline", .list items), ("destination", d)])) := by
  rcases destination_cases hd with ⟨s, rfl⟩ | ⟨hurl, hdestination⟩
  · rfl
  · rw [firstFailure_pointing (by decide) hurl, Inline.toCode]
    · rfl
    · exact hdestination

/-- An inline stops the mapping where the first of its visits does. -/
lemma failure?_toCode_ofValue_inline :
    (∀ v : Value, v.isTyped →
      failure? (Inline.ofValue v).toCode = firstFailure (.inline v :: insideInline v)) ∧
    (∀ v : Value, v.isTyped → ∀ vs, v = .list vs →
      failure? (Inline.toCodeAll (Inline.ofField v)) = firstFailure (inlines vs)) ∧
    ∀ vs : List Value, Value.allTyped vs →
      failure? (Inline.toCodeAll (Inline.ofValues vs)) = firstFailure (inlines vs) := by
  refine Inline.ofValue.mutual_induct
    (fun v => v.isTyped →
      failure? (Inline.ofValue v).toCode = firstFailure (.inline v :: insideInline v))
    (fun v => v.isTyped → ∀ vs, v = .list vs →
      failure? (Inline.toCodeAll (Inline.ofField v)) = firstFailure (inlines vs))
    (fun vs => Value.allTyped vs →
      failure? (Inline.toCodeAll (Inline.ofValues vs)) = firstFailure (inlines vs))
    ?text ?emphasis ?strong ?code ?link ?image ?footnote ?linebreak ?mathInline ?mathDisplay
    ?nonBreakingSpace ?other ?list ?tuple ?set ?plain ?nil ?cons
  case text | code | footnote | mathInline | mathDisplay => exact fun s _ => rfl
  case linebreak | nonBreakingSpace => exact fun _ => rfl
  case emphasis | strong =>
    intro is ih htyped
    obtain ⟨items, hnode⟩ := exists_nodes_of_className htyped rfl rfl
    obtain rfl : is = .list items := by simpa [Value.className] using hnode
    have hitems := (Value.fieldsTyped_cons.1 (Value.fields_of_isTyped htyped)).1
    rw [Inline.ofValue, Inline.toCode, firstFailure_cons_of_passes rfl, insideInline,
      ← ih hitems items rfl]
    exact failure?_map _ _
  case link =>
    intro is d ih htyped
    obtain ⟨items, d', hnode⟩ := exists_destination_of_className htyped rfl rfl
    obtain ⟨rfl, rfl⟩ : is = .list items ∧ d = d' := by simpa [Value.className] using hnode
    obtain ⟨hitems, hrest⟩ := Value.fieldsTyped_cons.1 (Value.fields_of_isTyped htyped)
    exact failure?_toCode_link (Value.fieldsTyped_cons.1 hrest).1 (ih hitems items rfl)
  case image =>
    intro is d _ htyped
    obtain ⟨items, d', hnode⟩ := exists_destination_of_className htyped rfl rfl
    obtain ⟨rfl, rfl⟩ : is = .list items ∧ d = d' := by simpa [Value.className] using hnode
    obtain ⟨_, hrest⟩ := Value.fieldsTyped_cons.1 (Value.fields_of_isTyped htyped)
    exact failure?_toCode_image (Value.fieldsTyped_cons.1 hrest).1
  case other =>
    intro v htext hemphasis hstrong hcode hlink himage hfootnote hbreak hmath hdisplay hspace htyped
    -- A class with a constructor would give the node the fields of one of the cases above.
    have hkinds : v.className ∉ inlineKinds ++ pointingKinds := by
      intro hmem
      simp only [inlineKinds, pointingKinds, List.cons_append, List.nil_append, List.mem_cons,
        List.not_mem_nil, or_false] at hmem
      rcases hmem with hkind | hkind | hkind | hkind | hkind | hkind
      · exact (exists_text_of_className htyped hkind rfl).elim htext
      · exact (exists_text_of_className htyped hkind rfl).elim hcode
      · exact (exists_nodes_of_className htyped hkind rfl).elim fun vs => hemphasis _
      · exact (exists_nodes_of_className htyped hkind rfl).elim fun vs => hstrong _
      · obtain ⟨items, d, hv⟩ := exists_destination_of_className htyped hkind rfl
        exact hlink _ d hv
      · obtain ⟨items, d, hv⟩ := exists_destination_of_className htyped hkind rfl
        exact himage _ d hv
    rw [List.mem_append, not_or] at hkinds
    rw [firstFailure_inline_of_notMem hkinds.1 hkinds.2, Inline.ofValue]
    · rfl
    all_goals assumption
  case list =>
    intro items ih htyped vs hvs
    obtain rfl := Value.list.inj hvs
    exact ih htyped
  case tuple | set => exact fun items _ _ vs hvs => absurd hvs (by simp)
  case plain => exact fun v hlist _ _ _ vs hvs => (hlist vs hvs).elim
  case nil => exact fun _ => rfl
  case cons =>
    intro v rest ihv ihrest htyped
    obtain ⟨hv, hrest⟩ := Value.allTyped_cons.1 htyped
    rw [inlines, ← List.cons_append, firstFailure_append, ← ihv hv, ← ihrest hrest]
    exact failure?_both _ _ _

/-- Every level is written, unless a number in it is too long. -/
lemma failure?_text_ofValue (v : Value) :
    failure? (Level.ofValue v).text = if v.isShowable then none else some .longLevel := by
  have hvalue : (Level.ofValue v).toValue = v := by cases v <;> rfl
  rw [Level.text, hvalue]
  split_ifs <;> rfl

/-- A heading stops the mapping at its level, or else within its running text. -/
lemma firstFailure_heading (level : Value) (items : List Value) (ps : List Visit) :
    firstFailure (.block (.node "Heading" [("level", level), ("inline", .list items)]) :: ps) =
      (if level.isShowable then none else some .longLevel).or (firstFailure ps) := by
  have hpasses :
      (Visit.block (.node "Heading" [("level", level), ("inline", .list items)])).passes =
        level.isShowable := (Value.isShowable_eq_areShort level).symm
  split_ifs with hlevel
  · exact firstFailure_cons_of_passes (hpasses.trans hlevel) _
  · rw [firstFailure, List.find?_cons_of_pos (by simpa [hpasses] using hlevel)]
    rfl

/-- The same for blocks, lists of blocks and the items of lists. -/
lemma failure?_toCode_ofValue_block :
    (∀ v : Value, v.isTyped →
      failure? (Block.ofValue v).toCode = firstFailure (.block v :: insideBlock v)) ∧
    (∀ v : Value, v.isTyped → ∀ vs, v = .list vs →
      failure? (Block.toCodeAll (Block.ofField v)) = firstFailure (blocks vs)) ∧
    (∀ vs : List Value, Value.allTyped vs →
      failure? (Block.toCodeAll (Block.ofValues vs)) = firstFailure (blocks vs)) ∧
    (∀ v : Value, v.isTyped → ∀ vs, v = .list vs → vs.all Value.isList →
      failure? (Block.toCodeItems (Block.ofItemField v)) = firstFailure (items vs)) ∧
    ∀ vs : List Value, Value.allTyped vs → vs.all Value.isList →
      failure? (Block.toCodeItems (Block.ofItems vs)) = firstFailure (items vs) := by
  refine Block.ofValue.mutual_induct
    (fun v => v.isTyped →
      failure? (Block.ofValue v).toCode = firstFailure (.block v :: insideBlock v))
    (fun v => v.isTyped → ∀ vs, v = .list vs →
      failure? (Block.toCodeAll (Block.ofField v)) = firstFailure (blocks vs))
    (fun vs => Value.allTyped vs →
      failure? (Block.toCodeAll (Block.ofValues vs)) = firstFailure (blocks vs))
    (fun v => v.isTyped → ∀ vs, v = .list vs → vs.all Value.isList →
      failure? (Block.toCodeItems (Block.ofItemField v)) = firstFailure (items vs))
    (fun vs => Value.allTyped vs → vs.all Value.isList →
      failure? (Block.toCodeItems (Block.ofItems vs)) = firstFailure (items vs))
    ?paragraph ?heading ?bulletList ?codeBlock ?codeBlockIn ?blockQuote ?rawBlock ?thematicBreak
    ?other ?list ?tuple ?set ?plain ?itemList ?itemTuple ?itemSet ?itemElements ?itemMisfit ?nil
    ?cons ?noItem ?item
  case codeBlock | rawBlock => exact fun s _ => rfl
  case codeBlockIn => exact fun l s _ => rfl
  case thematicBreak => exact fun _ => rfl
  case blockQuote => exact fun bs _ _ => rfl
  case paragraph =>
    intro is htyped
    obtain ⟨items, hnode⟩ := exists_nodes_of_className htyped rfl rfl
    obtain rfl : is = .list items := by simpa [Value.className] using hnode
    have hitems := (Value.fieldsTyped_cons.1 (Value.fields_of_isTyped htyped)).1
    rw [Block.ofValue, Block.toCode, firstFailure_cons_of_passes rfl, insideBlock,
      ← failure?_toCode_ofValue_inline.2.1 _ hitems items rfl]
    exact failure?_map _ _
  case heading =>
    intro level is htyped
    obtain ⟨level', items, hnode⟩ := exists_level_of_className htyped rfl
    obtain ⟨rfl, rfl⟩ : level = level' ∧ is = .list items := by simpa [Value.className] using hnode
    have hrest := (Value.fieldsTyped_cons.1 (Value.fields_of_isTyped htyped)).2
    have hitems := (Value.fieldsTyped_cons.1 hrest).1
    rw [Block.ofValue, Block.toCode, firstFailure_heading, insideBlock,
      ← failure?_toCode_ofValue_inline.2.1 _ hitems items rfl, ← failure?_text_ofValue]
    exact failure?_both _ _ _
  case bulletList =>
    intro vs ih htyped
    obtain ⟨items, hnode, hall⟩ := exists_items_of_className htyped rfl
    obtain rfl : vs = .list items := by simpa [Value.className] using hnode
    have hitems := (Value.fieldsTyped_cons.1 (Value.fields_of_isTyped htyped)).1
    rw [Block.ofValue, Block.toCode, firstFailure_cons_of_passes rfl, insideBlock,
      ← ih hitems items rfl hall]
    exact failure?_map _ _
  case other =>
    intro v hparagraph hheading hlist hcode hcodeIn hquote hraw hbreak htyped
    have hkinds : v.className ∉ blockKinds := by
      intro hmem
      simp only [blockKinds, List.mem_cons, List.not_mem_nil, or_false] at hmem
      rcases hmem with hkind | hkind | hkind | hkind | hkind | hkind
      · exact (exists_nodes_of_className htyped hkind rfl).elim fun vs => hparagraph _
      · obtain ⟨level, items, hv⟩ := exists_level_of_className htyped hkind
        exact hheading level _ hv
      · obtain ⟨items, hv, -⟩ := exists_items_of_className htyped hkind
        exact hlist _ hv
      · obtain ⟨s, hv | ⟨l, hv⟩⟩ := exists_language_of_className htyped hkind
        · exact hcode s hv
        · exact hcodeIn l s hv
      · obtain ⟨fields, hv, hfields⟩ := exists_fields_of_className htyped hkind rfl
        exact hbreak (by rw [hv, fieldsMatch_nil_iff.1 hfields])
      · exact (exists_text_of_className htyped hkind rfl).elim hraw
    rw [firstFailure_cons_of_not (by simp [isExpressible, hkinds]), Block.ofValue]
    · rfl
    all_goals assumption
  case list =>
    intro items ih htyped vs hvs
    obtain rfl := Value.list.inj hvs
    exact ih htyped
  case itemList =>
    intro items ih htyped vs hvs hall
    obtain rfl := Value.list.inj hvs
    exact ih htyped hall
  case tuple | set | itemTuple | itemSet => exact fun items _ _ vs hvs => absurd hvs (by simp)
  case plain => exact fun v hlist _ _ _ vs hvs => (hlist vs hvs).elim
  case itemElements => exact fun v hlist _ _ _ _ _ vs hvs => (hlist vs hvs).elim
  case itemMisfit => exact fun v hlist _ _ _ _ vs hvs => (hlist vs hvs).elim
  case nil => exact fun _ => rfl
  case cons =>
    intro v rest ihv ihrest htyped
    obtain ⟨hv, hrest⟩ := Value.allTyped_cons.1 htyped
    rw [blocks, ← List.cons_append, firstFailure_append, ← ihv hv, ← ihrest hrest]
    exact failure?_both _ _ _
  case noItem => exact fun _ _ => rfl
  case item =>
    intro v rest ihv ihrest htyped hall
    obtain ⟨hv, hrest⟩ := Value.allTyped_cons.1 htyped
    rw [List.all_cons, Bool.and_eq_true] at hall
    cases v with
    | list item =>
      rw [items, firstFailure_append, ← ihv hv item rfl, ← ihrest hrest hall.2]
      exact failure?_both _ _ _
    | _ => exact absurd hall.1 (by simp [Value.isList])

/-- **Where the mapping stops.**  A document of typed nodes, where any value may stand at any
position, is mapped exactly when every visited position is expressible and no level of a heading is
too long to be written.  Otherwise the first position where this fails decides: what has no
constructor is rejected, and a level that is too long is an error of its own. -/
theorem Document.toCode_ofValues (vs : List Value) (htyped : Value.allTyped vs) :
    ((∃ cs, (Document.mk (Block.ofValues vs)).toCode = .ok cs) ↔
      ∀ p ∈ Visit.blocks vs, p.isExpressible ∧ p.isWritable) ∧
    ∀ p, (Visit.blocks vs).find? (fun p => !(p.isExpressible && p.isWritable)) = some p →
      (Document.mk (Block.ofValues vs)).toCode =
        .error (if p.isExpressible then .longLevel else .rejected p.rejection) := by
  have h : failure? (Document.mk (Block.ofValues vs)).toCode = firstFailure (Visit.blocks vs) :=
    failure?_toCode_ofValue_block.2.2.1 vs htyped
  cases hcode : (Document.mk (Block.ofValues vs)).toCode with
  | ok cs =>
    rw [hcode, failure?] at h
    have hnone : (Visit.blocks vs).find? (fun p => !p.passes) = none := by
      simpa [firstFailure] using h.symm
    refine ⟨⟨fun _ p hp => ?_, fun _ => ⟨cs, rfl⟩⟩, fun p hp => ?_⟩
    · simpa [passes] using List.find?_eq_none.1 hnone p hp
    · exact absurd (hnone.symm.trans hp) (by simp)
  | error e =>
    rw [hcode, failure?] at h
    obtain ⟨p, hp, he⟩ := Option.map_eq_some_iff.1 h.symm
    refine ⟨⟨fun ⟨cs, hcs⟩ => absurd hcs (by simp), fun hall => ?_⟩, fun q hq => ?_⟩
    · have hstops : ¬ p.passes := by simpa using List.find?_some hp
      exact absurd (Bool.and_eq_true_iff.2 (hall p (List.mem_of_find?_eq_some hp))) hstops
    · obtain rfl : p = q := Option.some.inj (hp.symm.trans hq)
      rw [← he]
      rfl

/-- A heading may have anything as its level, and the footnote in an alternative text is not
visited; then a link without a URL comes before the line break in it and before the block quote of
the next item. -/
theorem Document.toCode_loose_link :
    let heading : Value := .node "Heading" [("level", .list [.null]), ("inline", .list [])]
    let note : Value := .node "Footnote" [("reference", .str "1")]
    let image : Value := .node "Image" [("inline", .list [note]),
      ("destination", .node "Url" [("url", .str "u")])]
    let link : Value := .node "Link" [("inline", .list [.node "Linebreak" []]),
      ("destination", .node "Element" [])]
    let vs : List Value := [heading, .node "Paragraph" [("inline", .list [image])],
      .node "BulletList" [("items", .list [.list [.node "Paragraph" [("inline", .list [link])]],
        .list [.node "BlockQuote" [("blocks", .list [.null])], .str "plain"]])]]
    Value.allTyped vs ∧ (Document.mk (Block.ofValues vs)).toCode =
      .error (.rejected ⟨"Link", some "reference destination"⟩) := by
  intro heading note image link vs
  have htyped : Value.allTyped vs := by decide
  exact ⟨htyped, (Document.toCode_ofValues vs htyped).2 (.inline link) rfl⟩

/-- A heading with a level of one digit too many has a constructor and is no reason for a rejection,
but it is not mapped.  Nor is a list with a number in the place of an item. -/
theorem Document.toCode_long_level :
    let heading : Value :=
      .node "Heading" [("level", .int (10 ^ Display.digitLimit)), ("inline", .list [])]
    let list : Value := .node "BulletList" [("items", .list [.int 5])]
    (Value.allTyped [heading] ∧ (∀ p ∈ Visit.blocks [heading], p.isExpressible) ∧
      (Document.mk (Block.ofValues [heading])).toCode = .error .longLevel) ∧
    (∀ p ∈ Visit.blocks [list], p.isExpressible) ∧
      (Document.mk (Block.ofValues [list])).toCode = .error (.notIterable "int") := by
  intro heading list
  have htext : (Level.number (10 ^ Display.digitLimit)).text = .error .longLevel :=
    if_neg Value.not_isShowable_int_long
  refine ⟨⟨rfl, ?_, ?_⟩, ?_, rfl⟩
  · simp [heading, Visit.blocks, insideBlock, inlines, isExpressible, Value.className, blockKinds]
  · change Block.toCodeAll [.heading (.number (10 ^ Display.digitLimit)) []] = _
    rw [Block.toCodeAll, Block.toCode, htext]
    rfl
  · simp [list, Visit.blocks, insideBlock, items, isExpressible, Value.className, blockKinds]

end ElementCode
