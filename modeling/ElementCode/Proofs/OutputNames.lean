import ElementCode.FileTree
import ElementCode.Proofs.BuiltDocuments

/-!
# The name of the output

The code that is generated from a file gets the name of the file with another suffix.  Without an
output the suffix of the input is replaced, and the code lies beside the input.  When the output is
a directory, the new suffix is put behind the stem of the input, and the code lies in that
directory.  Both ways lead to the same name (`outputFor_of_ofString`).

A name has a suffix when its last dot stands neither at its start nor at its end.
`Name.split_dotted` says how a name is cut at its last dot, whatever stands around it, and
everything else about stems and suffixes follows from it: together they are the name, a stem is
never empty, and a stem with a new suffix behind it is cut again at the same place.
-/

namespace ElementCode

/-! ## Stem and suffix of a name -/

namespace Name

/-- A name without a dot has no suffix. -/
lemma split_of_notMem {name : Name} (h : '.' ∉ name) : name.split = (name, []) := by
  have hall : name.reverse.takeWhile (· != '.') = name.reverse := by
    rw [List.takeWhile_eq_self_iff]
    intro c hc
    have hne : c ≠ '.' := fun hdot => h (hdot ▸ List.mem_reverse.1 hc)
    simpa using hne
  simp [split, hall]

/-- A name is cut at its last dot, unless nothing stands behind the dot or in front of it. -/
lemma split_dotted (front : Name) {ext : List Char} (hext : '.' ∉ ext) :
    split (front ++ '.' :: ext) =
      if ext = [] ∨ front = [] then (front ++ '.' :: ext, []) else (front, '.' :: ext) := by
  have hlast : (front ++ '.' :: ext).reverse.takeWhile (· != '.') = ext.reverse := by
    have hbehind : ∀ c ∈ ext.reverse, (c != '.') = true := by
      intro c hc
      have hne : c ≠ '.' := fun hdot => hext (hdot ▸ List.mem_reverse.1 hc)
      simpa using hne
    rw [List.reverse_append, List.reverse_cons, List.append_assoc,
      List.takeWhile_append_of_pos hbehind]
    simp
  have hfront : (front ++ '.' :: ext).take ((front ++ '.' :: ext).length - ext.length) =
      front ++ ['.'] := by
    have hassoc : front ++ '.' :: ext = (front ++ ['.']) ++ ext := by simp
    rw [hassoc, List.length_append, Nat.add_sub_cancel, List.take_left]
  simp only [split, hlast, List.reverse_reverse, hfront]
  by_cases hempty : ext = [] ∨ front = []
  · rw [if_pos hempty, if_pos]
    rcases hempty with rfl | rfl <;> simp
  · rw [if_neg hempty, if_neg, List.dropLast_concat]
    simpa [List.isEmpty_iff] using hempty

/-- Every name with a dot has a last one. -/
lemma exists_eq_dotted {name : Name} (h : '.' ∈ name) :
    ∃ front ext, name = front ++ '.' :: ext ∧ '.' ∉ ext := by
  obtain ⟨ext, front, hsplit, hext⟩ := List.eq_append_cons_of_mem (List.mem_reverse.2 h)
  refine ⟨front.reverse, ext.reverse, ?_, by simpa using hext⟩
  rw [← List.reverse_reverse name, hsplit]
  simp

/-- A name is its stem with its suffix behind it. -/
lemma split_append (name : Name) : name.split.1 ++ name.split.2 = name := by
  by_cases hdot : '.' ∈ name
  · obtain ⟨front, ext, rfl, hext⟩ := exists_eq_dotted hdot
    rw [split_dotted front hext]
    split_ifs <;> simp
  · simp [split_of_notMem hdot]

lemma stem_ne_nil {name : Name} (h : name ≠ []) : name.split.1 ≠ [] := by
  by_cases hdot : '.' ∈ name
  · obtain ⟨front, ext, rfl, hext⟩ := exists_eq_dotted hdot
    rw [split_dotted front hext]
    split_ifs with hempty
    · exact h
    · exact fun hfront => hempty (.inr hfront)
  · simpa [split_of_notMem hdot] using h

/-- A suffix that is put behind a stem is the suffix of the new name. -/
lemma split_stem_append {name : Name} (h : name ≠ []) {ext : List Char} (hne : ext ≠ [])
    (hext : '.' ∉ ext) : split (name.split.1 ++ '.' :: ext) = (name.split.1, '.' :: ext) := by
  have hcut : ¬ (ext = [] ∨ name.split.1 = []) := by
    rintro (hempty | hempty)
    · exact hne hempty
    · exact stem_ne_nil h hempty
  rw [split_dotted _ hext, if_neg hcut]

end Name

/-! ## Segments -/

namespace Path

/-- A name that can be a segment of a path. -/
structure IsSegment (part : Name) : Prop where
  noSlash : '/' ∉ part
  ne_nil : part ≠ []
  ne_dot : part ≠ ['.']

lemma isSegment_of_mem {s : String} {part : Name} (h : part ∈ (ofString s).parts) :
    IsSegment part := by
  obtain ⟨hpiece, hkept⟩ := List.mem_filter.1 h
  simp only [Bool.and_eq_true, bne_iff_ne, ne_eq] at hkept
  exact ⟨Markup.notMem_of_mem_splitAtChar hpiece, hkept.1, hkept.2⟩

lemma splitAtChar_of_notMem {sep : Char} {cs : List Char} (h : sep ∉ cs) :
    Text.splitAtChar sep cs = [cs] := by
  induction cs with
  | nil => rfl
  | cons c cs ih =>
    obtain ⟨hc, hcs⟩ := not_or.1 (mt List.mem_cons.2 h)
    simp [Text.splitAtChar, ih hcs, Ne.symm hc]

/-- A segment by itself is a path of one segment. -/
lemma ofString_of_isSegment {part : Name} (h : IsSegment part) :
    ofString (String.ofList part) = ⟨[], [part]⟩ := by
  have hstart : part.takeWhile (· == '/') = [] := by
    cases part with
    | nil => rfl
    | cons c cs =>
      have hc : c ≠ '/' := fun hslash => h.noSlash (hslash ▸ List.mem_cons_self)
      simp [hc]
  simp [ofString, hstart, splitAtChar_of_notMem h.noSlash, h.ne_nil, h.ne_dot]

/-- The path of an entry of a directory. -/
def entry (p : Path) (n : Name) : Path := { p with parts := p.parts ++ [n] }

lemma join_of_isSegment (p : Path) {part : Name} (h : IsSegment part) :
    p.join (String.ofList part) = p.entry part := by
  rw [join, ofString_of_isSegment h]
  rfl

@[simp] lemma name_entry (p : Path) (n : Name) : (p.entry n).name = n := by
  simp [name, entry]

@[simp] lemma parent_entry (p : Path) (n : Name) : (p.entry n).parent = p := by
  simp [parent, entry]

/-- A path with a name is the entry of its directory with this name. -/
lemma entry_parent_name {p : Path} (h : p.name ≠ []) : p.parent.entry p.name = p := by
  have hparts : p.parts.dropLast ++ [p.name] = p.parts := by
    unfold name at h ⊢
    cases hlast : p.parts.getLast? with
    | none => simp [hlast] at h
    | some last => exact List.dropLast_append_getLast? last hlast
  rw [entry, parent, hparts]

lemma isSegment_name {s : String} (h : (ofString s).name ≠ []) : IsSegment (ofString s).name := by
  have hmem : (ofString s).name ∈ ((ofString s).parent.entry (ofString s).name).parts :=
    List.mem_append_right _ (List.mem_singleton.2 rfl)
  rw [entry_parent_name h] at hmem
  exact isSegment_of_mem hmem

/-! ## Replacing the suffix -/

lemma defaultSuffix_eq : defaultSuffix = '.' :: "gleam".toList := by decide

/-- The name of the code that is generated from a path. -/
def codeName (p : Path) : Name := p.stem ++ defaultSuffix

lemma withSuffix_default {p : Path} (h : p.name ≠ []) :
    p.withSuffix defaultSuffix = .ok (p.parent.entry p.codeName) := by
  have hsuffix : isSuffix defaultSuffix := by decide
  rw [withSuffix, if_neg (by simp [hsuffix]), if_neg (by simpa [List.isEmpty_iff] using h)]
  rfl

/-- The code of the code has the same name. -/
lemma codeName_entry {p : Path} (h : p.name ≠ []) (dir : Path) :
    (dir.entry p.codeName).codeName = p.codeName := by
  have hsplit : Name.split p.codeName = (p.stem, defaultSuffix) := by
    rw [codeName, defaultSuffix_eq]
    exact Name.split_stem_append h (by decide) (by decide)
  rw [codeName, stem, name_entry, hsplit, codeName]

/-- The name changes unless the suffix is that of code. -/
lemma codeName_eq_name_iff (p : Path) : p.codeName = p.name ↔ p.suffix = defaultSuffix := by
  have hname : p.name = p.stem ++ p.suffix := (Name.split_append p.name).symm
  rw [hname, codeName]
  exact ⟨fun h => (List.append_cancel_left h).symm, fun h => by rw [h]⟩

/-- The name of the code is a segment again. -/
lemma isSegment_codeName {s : String} (h : (ofString s).name ≠ []) :
    IsSegment (ofString s).codeName := by
  have hstem : '/' ∉ (ofString s).stem := by
    intro hslash
    apply (isSegment_name h).noSlash
    rw [← Name.split_append (ofString s).name]
    exact List.mem_append_left _ hslash
  have hsuffix : '/' ∉ defaultSuffix := by decide
  have hlength : 6 ≤ (ofString s).codeName.length := by
    rw [codeName, List.length_append, show defaultSuffix.length = 6 by decide]
    omega
  refine ⟨fun hslash => (List.mem_append.1 hslash).elim hstem hsuffix, fun hnil => ?_,
    fun hdot => ?_⟩
  · rw [hnil] at hlength
    exact absurd hlength (by decide)
  · rw [hdot] at hlength
    exact absurd hlength (by decide)

end Path

/-! ## The two ways to choose the output -/

namespace FileTree

variable {t : FileTree} {p : Path}

lemma outputFor_none (h : p.name ≠ []) :
    t.outputFor p none Path.defaultSuffix = .ok (p.parent.entry p.codeName) := by
  change (p.withSuffix Path.defaultSuffix).mapError OutputError.path = _
  rw [Path.withSuffix_default h]
  rfl

lemma outputFor_directory {s out : String} (h : (Path.ofString s).name ≠ []) (hout : out ≠ "")
    (hdir : t.isDirectory (.ofString out)) :
    t.outputFor (.ofString s) (some out) Path.defaultSuffix =
      .ok ((Path.ofString out).entry (Path.ofString s).codeName) := by
  have hgiven : (some out).filter (!·.isEmpty) = some out := by simp [hout]
  have hlookUp : t.lookUp (.ofString out) = .ok () := by
    rw [lookUp, if_neg]
    intro hlong
    simp [isDirectory, hlong] at hdir
  have hjoin := Path.join_of_isSegment (.ofString out) (Path.isSegment_codeName h)
  rw [Path.codeName] at hjoin
  rw [outputFor, Path.outputFor, hgiven]
  simp only [hlookUp, hdir, if_true, hjoin]
  rfl

/-- **The name of the output.**  Let the input be a path with a name.

* Without an output the code lies beside the input.  It takes the place of the input exactly when
  the input has the suffix for code, and the output for the code itself is the code.
* With an output that names a directory the code lies in this directory, under the same name.
* The empty text counts as no output. -/
theorem outputFor_of_ofString (t : FileTree) (s : String) (hname : (Path.ofString s).name ≠ []) :
    ∃ beside, t.outputFor (.ofString s) none Path.defaultSuffix = .ok beside ∧
      beside.parent = (Path.ofString s).parent ∧
      (beside = Path.ofString s ↔ (Path.ofString s).suffix = Path.defaultSuffix) ∧
      t.outputFor beside none Path.defaultSuffix = .ok beside ∧
      (∀ out, out ≠ "" → t.isDirectory (.ofString out) →
        ∃ inside, t.outputFor (.ofString s) (some out) Path.defaultSuffix = .ok inside ∧
          inside.parent = .ofString out ∧ inside.name = beside.name) ∧
      t.outputFor (.ofString s) (some "") Path.defaultSuffix = .ok beside := by
  have hcode : (Path.ofString s).codeName ≠ [] := (Path.isSegment_codeName hname).ne_nil
  refine ⟨(Path.ofString s).parent.entry (Path.ofString s).codeName, outputFor_none hname,
    Path.parent_entry _ _, ?_, ?_, fun out hout hdir => ?_, outputFor_none (t := t) hname⟩
  · rw [← Path.codeName_eq_name_iff]
    constructor
    · intro h
      rw [← Path.name_entry (Path.ofString s).parent (Path.ofString s).codeName, h]
    · intro h
      rw [h, Path.entry_parent_name hname]
  · rw [outputFor_none (by rwa [Path.name_entry]), Path.parent_entry, Path.codeName_entry hname]
  · refine ⟨_, outputFor_directory hname hout hdir, Path.parent_entry _ _, ?_⟩
    rw [Path.name_entry, Path.name_entry]

/-- A name whose only dot stands at its start has no suffix, so nothing of it is replaced. -/
theorem outputFor_leading_dot :
    let t : FileTree := { dirs := [[['o']]] }
    let input := Path.ofString "d/.gleam"
    input.name ≠ [] ∧ t.isDirectory (.ofString "./o/") ∧
      ∃ beside inside, t.outputFor input none Path.defaultSuffix = .ok beside ∧
        beside.parent = .ofString "d" ∧ beside ≠ input ∧
        t.outputFor input (some "./o/") Path.defaultSuffix = .ok inside ∧
        inside.parent = .ofString "o" ∧ inside.name = beside.name := by
  intro t input
  have hname : input.name ≠ [] := by decide
  have hdir : t.isDirectory (.ofString "./o/") := by decide
  obtain ⟨beside, hbeside, hparent, hsame, -, hdirectory, -⟩ :=
    outputFor_of_ofString t "d/.gleam" hname
  obtain ⟨inside, hinside, hwithin, hnames⟩ := hdirectory "./o/" (by decide) hdir
  refine ⟨hname, hdir, beside, inside, hbeside, hparent.trans (by decide), fun h => ?_, hinside,
    hwithin.trans (by decide), hnames⟩
  exact absurd (hsame.1 h) (by decide)

/-- The empty text names the working directory as a path, but the code does not lie there. -/
theorem outputFor_empty_output :
    let t : FileTree := { dirs := [[['d']]] }
    (Path.ofString "d/a.md").name ≠ [] ∧ t.isDirectory (.ofString "") ∧
      ∃ p, t.outputFor (.ofString "d/a.md") (some "") Path.defaultSuffix = .ok p ∧
        p.parent ≠ .ofString "" :=
  ⟨by decide, by decide, .ofString "d/a.gleam", rfl, by decide⟩

end FileTree

end ElementCode
