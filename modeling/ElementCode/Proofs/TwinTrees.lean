import ElementCode.Proofs.Writing

/-!
# Trees that differ in one file

Two file trees may be the same but for the content of one file (`SameBut`).  Paths lead to the same
places in both, so everything that is done without reading that file is done alike: other files are
read alike (`SameBut.readText_eq`), and writing succeeds or fails alike and leaves two trees that
are again the same but for that file (`SameBut.write`).
-/

namespace ElementCode.FileTree

variable {l : Location} {t t' : FileTree}

/-- The trees are the same but for the content of the file at a location. -/
structure SameBut (l : Location) (t t' : FileTree) : Prop where
  cwd : t'.cwd = t.cwd
  dirs : t'.dirs = t.dirs
  file?_eq : ∀ m, m ≠ l → t'.file? m = t.file? m
  isSome : (t'.file? l).isSome = (t.file? l).isSome

namespace SameBut

lemma isDirAt_eq (h : SameBut l t t') (m : Location) : t'.isDirAt m = t.isDirAt m := by
  rw [isDirAt, isDirAt, h.dirs]

lemma isSome_eq (h : SameBut l t t') (m : Location) :
    (t'.file? m).isSome = (t.file? m).isSome := by
  by_cases hm : m = l
  · rw [hm, h.isSome]
  · rw [h.file?_eq m hm]

/-! ## Looking up and reading -/

lemma follow_eq (h : SameBut l t t') (here : Location) (parts : List Name) :
    t'.follow here parts = t.follow here parts := by
  induction parts generalizing here with
  | nil => rfl
  | cons part rest ih => simp only [follow, h.isDirAt_eq, h.isSome_eq, ih]

lemma find_eq (h : SameBut l t t') (p : Path) : t'.find p = t.find p := by
  have hstart : t'.start p = t.start p := by rw [start, start, h.cwd]
  rw [find, find, hstart, h.follow_eq]

lemma has_eq (h : SameBut l t t') (p : Path) : t'.has p = t.has p := by
  rw [has, has, h.find_eq]

lemma isDirectory_eq (h : SameBut l t t') (p : Path) : t'.isDirectory p = t.isDirectory p := by
  rw [isDirectory, isDirectory, h.find_eq]

lemma lookUp_eq (h : SameBut l t t') (p : Path) : t'.lookUp p = t.lookUp p := by
  rw [lookUp, lookUp, h.find_eq]

lemma outputFor_eq (h : SameBut l t t') (input : Path) (output : Option String)
    (suffix : List Char) : t'.outputFor input output suffix = t.outputFor input output suffix := by
  have hdirectory : t'.isDirectory = t.isDirectory := funext h.isDirectory_eq
  simp only [outputFor, h.lookUp_eq, hdirectory]

lemma readText_eq (h : SameBut l t t') {p : Path} (hp : t.find p ≠ .file l) :
    t'.readText p = t.readText p := by
  have hbytes : t'.readBytes p = t.readBytes p := by
    rw [readBytes, readBytes, h.find_eq]
    cases hfind : t.find p with
    | file m =>
      have hm : m ≠ l := fun hm => hp (by rw [hfind, hm])
      simp only [h.file?_eq m hm]
    | _ => rfl
  rw [readText, readText, hbytes]

/-! ## Writing -/

lemma setFile (h : SameBut l t t') (m : Location) (bytes : List UInt8) :
    SameBut l (t.setFile m bytes) (t'.setFile m bytes) where
  cwd := h.cwd
  dirs := h.dirs
  file?_eq k hk := by rw [file?_setFile, file?_setFile, h.file?_eq k hk]
  isSome := by
    rw [file?_setFile, file?_setFile]
    split_ifs
    · rfl
    · exact h.isSome

end SameBut

/-- Two contents of one file. -/
lemma sameBut_setFile (t : FileTree) (l : Location) (bytes bytes' : List UInt8) :
    SameBut l (t.setFile l bytes) (t.setFile l bytes') where
  cwd := rfl
  dirs := rfl
  file?_eq m hm := by rw [file?_setFile, file?_setFile, if_neg hm, if_neg hm]
  isSome := by rw [file?_setFile, file?_setFile, if_pos rfl, if_pos rfl, Option.isSome_some,
    Option.isSome_some]

/-- Both steps fail alike, or both give trees, which are the same but for the file. -/
def EndsAlike (l : Location) (r r' : Except FileError FileTree) : Prop :=
  (∃ e, r = .error e ∧ r' = .error e) ∨
    ∃ made made', r = .ok made ∧ r' = .ok made' ∧ SameBut l made made'

lemma EndsAlike.error (l : Location) (e : FileError) : EndsAlike l (.error e) (.error e) :=
  .inl ⟨e, rfl, rfl⟩

lemma EndsAlike.ok (h : SameBut l t t') : EndsAlike l (.ok t) (.ok t') :=
  .inr ⟨t, t', rfl, rfl, h⟩

namespace SameBut

lemma makeDirectory (h : SameBut l t t') (p : Path) :
    EndsAlike l (t.makeDirectory p) (t'.makeDirectory p) := by
  simp only [FileTree.makeDirectory, h.find_eq, h.isDirAt_eq, h.isSome_eq]
  cases p.parts.getLast? with
  | none => exact .error l _
  | some last =>
    cases t.find p.parent with
    | directory here =>
      have hmade : SameBut l { t with dirs := t.dirs ++ [here ++ [last]] }
          { t' with dirs := t'.dirs ++ [here ++ [last]] } :=
        ⟨h.cwd, by rw [h.dirs], h.file?_eq, h.isSome⟩
      dsimp only
      split_ifs
      all_goals first | exact .error l _ | exact .ok hmade
    | _ =>
      dsimp only
      split_ifs
      all_goals exact .error l _

lemma ensureDirectory (h : SameBut l t t') (p : Path) :
    EndsAlike l (t.ensureDirectory p) (t'.ensureDirectory p) := by
  rw [FileTree.ensureDirectory, FileTree.ensureDirectory]
  obtain ⟨e, he, he'⟩ | ⟨made, made', hmade, hmade', hsame⟩ := h.makeDirectory p
  · simp only [he, he', h.isDirectory_eq]
    cases e with
    | notFound | nullByte => exact .error l _
    | _ =>
      dsimp only
      split_ifs
      · exact .ok h
      · exact .error l _
  · simp only [hmade, hmade']
    exact .ok hsame

lemma ensureParents (h : SameBut l t t') (p : Path) (n : Nat) :
    (ensureParents p n t').1 = (ensureParents p n t).1 ∧
      SameBut l (ensureParents p n t).2 (ensureParents p n t').2 := by
  induction n generalizing t t' with
  | zero =>
    rw [FileTree.ensureParents, FileTree.ensureParents]
    obtain ⟨e, he, he'⟩ | ⟨made, made', hmade, hmade', hsame⟩ :=
      h.ensureDirectory { p with parts := [] }
    · rw [he, he']
      exact ⟨rfl, h⟩
    · rw [hmade, hmade']
      exact ⟨rfl, hsame⟩
  | succ n ih =>
    rw [FileTree.ensureParents, FileTree.ensureParents]
    obtain ⟨e, he, he'⟩ | ⟨made, made', hmade, hmade', hsame⟩ :=
      h.ensureDirectory { p with parts := p.parts.take (n + 1) }
    · rw [he, he']
      cases e with
      | notFound path =>
        -- the directory above is made first, and then this one is tried again
        obtain ⟨hresult, habove⟩ := ih h
        rcases hparents : FileTree.ensureParents p n t with ⟨result, above⟩
        rcases hparents' : FileTree.ensureParents p n t' with ⟨result', above'⟩
        rw [hparents, hparents'] at hresult habove
        obtain rfl : result' = result := hresult
        cases result' with
        | error e => exact ⟨rfl, habove⟩
        | ok =>
          dsimp only at habove ⊢
          obtain ⟨e, he, he'⟩ | ⟨made, made', hmade, hmade', hsame⟩ :=
            habove.ensureDirectory { p with parts := p.parts.take (n + 1) }
          · rw [he, he']
            exact ⟨rfl, habove⟩
          · rw [hmade, hmade']
            exact ⟨rfl, hsame⟩
      | _ => exact ⟨rfl, h⟩
    · rw [hmade, hmade']
      exact ⟨rfl, hsame⟩

/-- A write succeeds or fails alike. -/
lemma write (h : SameBut l t t') (p : Path) (text : String) :
    (t'.write p text).1 = (t.write p text).1 ∧
      SameBut l (t.write p text).2 (t'.write p text).2 := by
  obtain ⟨hresult, hmade⟩ := h.ensureParents p.parent p.parent.parts.length
  rw [FileTree.write, FileTree.write]
  rcases hparents : FileTree.ensureParents p.parent p.parent.parts.length t with ⟨result, made⟩
  rcases hparents' : FileTree.ensureParents p.parent p.parent.parts.length t' with ⟨result', made'⟩
  rw [hparents, hparents'] at hresult hmade
  obtain rfl : result' = result := hresult
  cases result' with
  | error e => exact ⟨rfl, hmade⟩
  | ok =>
    simp only [hmade.find_eq]
    cases made.find p with
    | file m => exact ⟨rfl, hmade.setFile m _⟩
    | nothing =>
      cases made.find p.parent with
      | directory here =>
        cases p.parts.getLast? with
        | some last => exact ⟨rfl, hmade.setFile (here ++ [last]) _⟩
        | none => exact ⟨rfl, hmade⟩
      | _ => exact ⟨rfl, hmade⟩
    | _ => exact ⟨rfl, hmade⟩

end SameBut

end ElementCode.FileTree
