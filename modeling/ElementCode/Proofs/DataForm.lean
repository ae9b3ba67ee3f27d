import Mathlib
import ElementCode.Document.Data
import ElementCode.Document.Elements

/-!
# The data form keeps the whole document

The data form of a document names the kind of every node and lists its fields.  Nothing is left out
of it, not even what the code of a document drops: from the data form of a closed document, one in
which every position holds a node of its own kind and no foreign value, the document can be read
back (`ofTagged?_tagged_document`).

Nodes of different kinds share the names of their fields, so the kind under `type` has to be found
first.  No kind has two fields of the same name, or one that is called `type` (`nodup_nodeFields`),
so a node with the fields of its kind reads back when the fields do (`readsBack_node`).  The rest is
an induction over inlines and blocks, with one application of this lemma for each kind.
-/

namespace ElementCode

/-! ## Data forms that read back -/

namespace Value

/-- A value that is read back from its data form. -/
def ReadsBack (v : Value) : Prop := v.tagged.ofTagged = v

lemma ofTaggedAll_taggedAll {items : List Value} (h : ∀ v ∈ items, v.ReadsBack) :
    ofTaggedAll (taggedAll items) = items := by
  induction items with
  | nil => rfl
  | cons v rest ih =>
    obtain ⟨hv, hrest⟩ := List.forall_mem_cons.1 h
    rw [taggedAll, ofTaggedAll, ih hrest]
    exact congrArg (· :: rest) hv

lemma readsBack_list {items : List Value} (h : ∀ v ∈ items, v.ReadsBack) :
    (list items).ReadsBack := by
  rw [ReadsBack, tagged, ofTagged, ofTaggedAll_taggedAll h]

lemma readsBack_str (s : String) : (str s).ReadsBack := rfl

lemma readsBack_int (n : Int) : (int n).ReadsBack := rfl

lemma readsBack_ofOption (s : Option String) : (ofOption s).ReadsBack := by
  cases s <;> rfl

/-- The fields of a node as entries of a mapping. -/
def fieldEntries (fields : List (String × Value)) : List (Value × Value) :=
  fields.map fun f => (str f.1, f.2)

lemma ofTaggedEntries_taggedFields {fields : List (String × Value)}
    (h : ∀ f ∈ fields, f.2.ReadsBack) :
    ofTaggedEntries (taggedFields fields) = fieldEntries fields := by
  induction fields with
  | nil => rfl
  | cons f rest ih =>
    obtain ⟨hf, hrest⟩ := List.forall_mem_cons.1 h
    rw [taggedFields, ofTaggedEntries, ih hrest]
    exact congrArg (fun v => (str f.1, v) :: fieldEntries rest) hf

/-- A field is found under its name when no other field has the same name. -/
lemma lookup_fieldEntries {fields : List (String × Value)} (h : (fields.map Prod.fst).Nodup)
    {f : String × Value} (hf : f ∈ fields) : lookup f.1 (fieldEntries fields) = some f.2 := by
  induction fields with
  | nil => exact absurd hf List.not_mem_nil
  | cons g rest ih =>
    obtain ⟨hg, hrest⟩ := List.nodup_cons.1 h
    rw [fieldEntries, List.map_cons, lookup]
    rcases List.mem_cons.1 hf with rfl | hf
    · rw [if_pos (beq_self_eq_true f.1)]
    · have hne : g.1 ≠ f.1 := fun heq => hg (heq ▸ List.mem_map_of_mem hf)
      rw [if_neg (by simpa using hne)]
      exact ih hrest hf

lemma ofEntries_of_lookup {entries : List (Value × Value)} {spec : String × Option Value}
    {v : Value} (h : lookup spec.1 entries = some v) (hname : spec.1 ≠ "attributes") :
    ofEntries entries spec = (spec.1, v) := by
  rw [ofEntries, h]
  simp only [Option.getD_some, Prod.mk.injEq, true_and]
  split
  · exact absurd ‹spec.1 = "attributes"› hname
  · rfl

/-- No kind of nodes has two fields with the same name, or one with the name of the kind. -/
lemma nodup_nodeFields {kind : String} {specs : List (String × Option Value)}
    (h : nodeFields kind = some specs) : ("type" :: specs.map Prod.fst).Nodup := by
  unfold nodeFields at h
  split at h
  case h_29 => exact absurd h (by simp)
  all_goals
    obtain rfl := Option.some.inj h
    decide

/-- A node reads back when it has the fields of its kind and these read back.  Attributes are left
out, since they are read as pairs. -/
lemma readsBack_node {kind : String} {fields : List (String × Value)}
    (hkind : (nodeFields kind).map (·.map Prod.fst) = some (fields.map Prod.fst))
    (hattributes : "attributes" ∉ fields.map Prod.fst) (hfields : ∀ f ∈ fields, f.2.ReadsBack) :
    (node kind fields).ReadsBack := by
  obtain ⟨specs, hspecs, hfst⟩ := Option.map_eq_some_iff.1 hkind
  obtain ⟨htype, hnodup⟩ : "type" ∉ fields.map Prod.fst ∧ (fields.map Prod.fst).Nodup := by
    rw [← hfst]
    exact List.nodup_cons.1 (nodup_nodeFields hspecs)
  -- the value of a field is found by its name alone, behind the entry for the kind
  have hfield : ∀ f ∈ fields, ∀ spec : String × Option Value, spec.1 = f.1 →
      ofEntries ((str "type", str kind) :: fieldEntries fields) spec = f := by
    intro f hf spec hspec
    have hmem : f.1 ∈ fields.map Prod.fst := List.mem_map_of_mem hf
    have hne : ("type" == spec.1) = false := by
      rw [beq_eq_false_iff_ne, hspec]
      exact fun heq => htype (heq ▸ hmem)
    have hlookup : lookup spec.1 ((str "type", str kind) :: fieldEntries fields) = some f.2 := by
      rw [lookup, if_neg (by simp [hne]), hspec, lookup_fieldEntries hnodup hf]
    rw [ofEntries_of_lookup hlookup (fun heq => hattributes (heq ▸ hspec ▸ hmem)), hspec]
  have hmap : specs.map (ofEntries ((str "type", str kind) :: fieldEntries fields)) = fields := by
    apply List.ext_getElem
    · simpa using congrArg List.length hfst
    · intro i hi hi'
      rw [List.getElem_map]
      refine hfield _ (List.getElem_mem hi') _ ?_
      have := congrArg (·[i]?) hfst
      simpa [hi', show i < specs.length by simpa using hi] using this
  rw [ReadsBack, tagged, ofTagged]
  simp only [ofTaggedEntries, ofTaggedEntries_taggedFields hfields, ofTagged, lookup,
    beq_self_eq_true, if_true, hspecs, hmap]

mutual

/-- The data form of a data form is the data form itself. -/
lemma tagged_tagged : (v : Value) → v.tagged.tagged = v.tagged
  | list items | tuple items => by
    rw [tagged, tagged, taggedAll_taggedAll items]
  | node _ _ | null | bool _ | int _ | float _ | str _ | wide _ | bytes _ | date _ | moment _
  | set _ | dict _ | enclosing _ => rfl

lemma taggedAll_taggedAll : (items : List Value) → taggedAll (taggedAll items) = taggedAll items
  | [] => rfl
  | v :: rest => by
    rw [taggedAll, taggedAll, tagged_tagged v, taggedAll_taggedAll rest]

end

end Value

/-! ## Reading nodes back -/

/-- A destination is read back from its node, and its node from the data form. -/
lemma Destination.readsBack {d : Destination} (h : d.isClosed) :
    d.toValue.ReadsBack ∧ Destination.ofValue d.toValue = d := by
  cases d with
  | url s => exact ⟨Value.readsBack_node rfl (by simp) (by simp [Value.readsBack_str]), rfl⟩
  | reference s => exact ⟨Value.readsBack_node rfl (by simp) (by simp [Value.readsBack_str]), rfl⟩
  | «foreign» v => exact absurd h (by simp [isClosed])

/-- A level is read back from its value. -/
lemma Level.readsBack {level : Level} (h : level.isClosed) :
    level.toValue.ReadsBack ∧ Level.ofValue level.toValue = level := by
  cases level with
  | number n => exact ⟨Value.readsBack_int n, rfl⟩
  | «foreign» v => exact absurd h (by simp [isClosed])

mutual

/-- An inline is read back from its node, and its node from the data form. -/
lemma Inline.readsBack : (i : Inline) → i.isClosed →
    i.toValue.ReadsBack ∧ Inline.ofValue i.toValue = i
  | .text s, _ | .code s, _ | .footnote s, _ | .mathInline s, _ | .mathDisplay s, _ =>
    ⟨Value.readsBack_node rfl (by simp) (by simp [Value.readsBack_str]), rfl⟩
  | .linebreak, _ | .nonBreakingSpace, _ =>
    ⟨Value.readsBack_node rfl (by simp) (by simp), rfl⟩
  | .emphasis inline, h | .strong inline, h => by
    rw [Inline.isClosed] at h
    obtain ⟨hnodes, hinline⟩ := Inline.readsBackAll inline h
    rw [Inline.toValue, Inline.ofValue, Inline.ofField, hinline]
    refine ⟨Value.readsBack_node rfl (by simp) ?_, rfl⟩
    simpa using Value.readsBack_list hnodes
  | .link inline destination, h | .image inline destination, h => by
    rw [Inline.isClosed, Bool.and_eq_true] at h
    obtain ⟨hnodes, hinline⟩ := Inline.readsBackAll inline h.1
    obtain ⟨hnode, hdestination⟩ := Destination.readsBack h.2
    rw [Inline.toValue, Inline.ofValue, Inline.ofField, hinline, hdestination]
    refine ⟨Value.readsBack_node rfl (by simp) ?_, rfl⟩
    simpa using ⟨Value.readsBack_list hnodes, hnode⟩
  | .foreign _, h | .misfit _, h => absurd h (by simp [Inline.isClosed])

/-- The same for lists of inlines. -/
lemma Inline.readsBackAll : (is : List Inline) → Inline.allClosed is →
    (∀ v ∈ Inline.toValues is, v.ReadsBack) ∧ Inline.ofValues (Inline.toValues is) = is
  | [], _ => ⟨by simp [Inline.toValues], rfl⟩
  | i :: rest, h => by
    rw [Inline.allClosed, Bool.and_eq_true] at h
    obtain ⟨hnode, hi⟩ := Inline.readsBack i h.1
    obtain ⟨hnodes, hrest⟩ := Inline.readsBackAll rest h.2
    rw [Inline.toValues, Inline.ofValues, hi, hrest, List.forall_mem_cons]
    exact ⟨⟨hnode, hnodes⟩, rfl⟩

end

mutual

/-- A block is read back from its node, and its node from the data form. -/
lemma Block.readsBack : (b : Block) → b.isClosed →
    b.toValue.ReadsBack ∧ Block.ofValue b.toValue = b
  | .paragraph inline, h => by
    rw [Block.isClosed] at h
    obtain ⟨hnodes, hinline⟩ := Inline.readsBackAll inline h
    rw [Block.toValue, Block.ofValue, Inline.ofField, hinline]
    refine ⟨Value.readsBack_node rfl (by simp) ?_, rfl⟩
    simpa using Value.readsBack_list hnodes
  | .heading level inline, h => by
    rw [Block.isClosed, Bool.and_eq_true] at h
    obtain ⟨hvalue, hlevel⟩ := Level.readsBack h.1
    obtain ⟨hnodes, hinline⟩ := Inline.readsBackAll inline h.2
    rw [Block.toValue, Block.ofValue, Inline.ofField, hinline, hlevel]
    refine ⟨Value.readsBack_node rfl (by simp) ?_, rfl⟩
    simpa using ⟨hvalue, Value.readsBack_list hnodes⟩
  | .bulletList items, h => by
    rw [Block.isClosed] at h
    obtain ⟨hnodes, hitems⟩ := Block.readsBackItems items h
    rw [Block.toValue, Block.ofValue, Block.ofItemField, hitems]
    refine ⟨Value.readsBack_node rfl (by simp) ?_, rfl⟩
    simpa using Value.readsBack_list hnodes
  | .codeBlock language content, _ => by
    refine ⟨Value.readsBack_node rfl (by simp) ?_, by cases language <;> rfl⟩
    simp [Value.readsBack_ofOption, Value.readsBack_str]
  | .blockQuote blocks, h => by
    rw [Block.isClosed] at h
    obtain ⟨hnodes, hblocks⟩ := Block.readsBackAll blocks h
    rw [Block.toValue, Block.ofValue, Block.ofField, hblocks]
    refine ⟨Value.readsBack_node rfl (by simp) ?_, rfl⟩
    simpa using Value.readsBack_list hnodes
  | .rawBlock content, _ =>
    ⟨Value.readsBack_node rfl (by simp) (by simp [Value.readsBack_str]), rfl⟩
  | .thematicBreak, _ => ⟨Value.readsBack_node rfl (by simp) (by simp), rfl⟩
  | .foreign _, h | .misfit _, h => absurd h (by simp [Block.isClosed])

/-- The same for lists of blocks. -/
lemma Block.readsBackAll : (bs : List Block) → Block.allClosed bs →
    (∀ v ∈ Block.toValues bs, v.ReadsBack) ∧ Block.ofValues (Block.toValues bs) = bs
  | [], _ => ⟨by simp [Block.toValues], rfl⟩
  | b :: rest, h => by
    rw [Block.allClosed, Bool.and_eq_true] at h
    obtain ⟨hnode, hb⟩ := Block.readsBack b h.1
    obtain ⟨hnodes, hrest⟩ := Block.readsBackAll rest h.2
    rw [Block.toValues, Block.ofValues, hb, hrest, List.forall_mem_cons]
    exact ⟨⟨hnode, hnodes⟩, rfl⟩

/-- The same for the items of a list. -/
lemma Block.readsBackItems : (items : List (List Block)) → Block.itemsClosed items →
    (∀ v ∈ Block.toItems items, v.ReadsBack) ∧ Block.ofItems (Block.toItems items) = items
  | [], _ => ⟨by simp [Block.toItems], rfl⟩
  | item :: rest, h => by
    rw [Block.itemsClosed, Bool.and_eq_true] at h
    obtain ⟨hnodes, hitem⟩ := Block.readsBackAll item h.1
    obtain ⟨hlists, hrest⟩ := Block.readsBackItems rest h.2
    rw [Block.toItems, Block.ofItems, Block.ofField, hitem, hrest, List.forall_mem_cons]
    exact ⟨⟨Value.readsBack_list hnodes, hlists⟩, rfl⟩

end

/-! ## The main statement -/

namespace Document

/-- A closed document is read back from its data form. -/
lemma ofTagged?_tagged {d : Document} (h : d.isClosed) : ofTagged? d.tagged = some d := by
  obtain ⟨hnodes, hblocks⟩ := Block.readsBackAll d.blocks h
  have hback : d.toValue.ReadsBack := by
    refine Value.readsBack_node rfl (by simp) ?_
    simpa using Value.readsBack_list hnodes
  rw [ofTagged?, tagged, hback]
  change some (Document.mk (Block.ofValues (Block.toValues d.blocks))) = some d
  rw [hblocks]

/-- **The data form keeps the whole document.**  Every closed document is read back from its data
form, so closed documents with the same data form are equal, and the data form of any value is its
own data form. -/
theorem ofTagged?_tagged_document :
    (∀ d : Document, d.isClosed → ofTagged? d.tagged = some d) ∧
    (∀ d e : Document, d.isClosed → e.isClosed → d.tagged = e.tagged → d = e) ∧
    ∀ v : Value, v.tagged.tagged = v.tagged := by
  refine ⟨fun d hd => ofTagged?_tagged hd, fun d e hd he h => ?_, Value.tagged_tagged⟩
  have hread := ofTagged?_tagged hd
  rw [h, ofTagged?_tagged he] at hread
  exact (Option.some.inj hread).symm

/-- The language of a code block and the alternative text of an image leave no trace in the code,
but they do in the data form. -/
theorem tagged_ne_of_dropped :
    let d : Document :=
      ⟨[.codeBlock (some "py") "x", .bulletList [[], [.paragraph [.image [.text "a"] (.url "u")]]]]⟩
    let e : Document :=
      ⟨[.codeBlock none "x", .bulletList [[], [.paragraph [.image [] (.url "u")]]]]⟩
    d.isClosed ∧ e.isClosed ∧ d.toCode = e.toCode ∧ ofTagged? d.tagged = some d ∧
      d.tagged ≠ e.tagged := by
  intro d e
  obtain ⟨hread, hinj, -⟩ := ofTagged?_tagged_document
  refine ⟨rfl, rfl, rfl, hread d rfl, fun h => ?_⟩
  have hsame : d = e := hinj d e rfl rfl h
  simp [d, e] at hsame

end Document

end ElementCode
