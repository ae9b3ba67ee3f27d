import ElementCode.FileTree
import Mathlib.Tactic

/-!
# What writing leaves

Writing a file makes the directories that its path lacks and sets the content of one file.  Paths
are not locations: double dots and the working directory make different paths lead to one file, so
that a later write may replace what an earlier one has left, and a path that leads nowhere may lead
to a file once directories have been made.

The theory rests on `Grows`: what writing keeps is enough for a path that leads somewhere to go on
leading there (`Grows.find_eq`).  Hence the effects of single steps, stated by where paths lead
afterwards, add up (`Touches.trans`).  `writeAll_touches` says what any sequence of writes can have
changed, whether it succeeds or fails halfway, and `leaves_of_writeAll` what it leaves if it
succeeds: every file that it was to write holds the text that was last written to it.
-/

namespace ElementCode

/-- The paths with at most the first `n` segments of a path. -/
def Path.leading (p : Path) (n : Nat) : List Path :=
  (List.range (n + 1)).map fun k => { p with parts := p.parts.take k }

/-- The directory of a path and those above it. -/
def Path.parents (p : Path) : List Path := p.parent.leading p.parent.parts.length

lemma Path.leading_succ (p : Path) (n : Nat) :
    p.leading (n + 1) = p.leading n ++ [{ p with parts := p.parts.take (n + 1) }] := by
  rw [leading, List.range_succ, List.map_append]
  rfl

/-- Whether there is a file or directory. -/
def Found.isThere : Found → Bool
  | directory _ | file _ => true
  | _ => false

namespace FileTree

variable {t t' t'' : FileTree} {p : Path}

/-! ## Growth -/

/-- The second tree has what the first one has, apart from the content of files. -/
structure Grows (t t' : FileTree) : Prop where
  cwd : t'.cwd = t.cwd
  dirs : ∀ l, t.isDirAt l → t'.isDirAt l
  files : ∀ l, (t.file? l).isSome → (t'.file? l).isSome
  /-- No directory takes the place of a file. -/
  apart : ∀ l, t'.isDirAt l → t.isDirAt l ∨ t.file? l = none

lemma Grows.refl (t : FileTree) : Grows t t := ⟨rfl, fun _ h => h, fun _ h => h, fun _ h => .inl h⟩

lemma Grows.trans (h : Grows t t') (h' : Grows t' t'') : Grows t t'' where
  cwd := h'.cwd.trans h.cwd
  dirs l hl := h'.dirs l (h.dirs l hl)
  files l hl := h'.files l (h.files l hl)
  apart l hl := by
    rcases h'.apart l hl with hdir | hnone
    · exact h.apart l hdir
    · right
      by_contra hsome
      have := h.files l (Option.isSome_iff_ne_none.mpr hsome)
      simp [hnone] at this

/-- Segments that lead somewhere lead there in a tree that has grown. -/
lemma Grows.follow_eq (h : Grows t t') (here : Location) (parts : List Name)
    (hthere : (t.follow here parts).isThere) : t'.follow here parts = t.follow here parts := by
  fun_induction t.follow here parts with
  | case1 here => rfl
  | case2 here part rest hup ih =>
    rw [follow, if_pos hup]
    exact ih hthere
  | case3 => simp [Found.isThere] at hthere
  | case4 here part rest hup hlong next hdir ih =>
    rw [follow, if_neg hup, if_neg hlong]
    simp only [next] at hdir
    simp only [h.dirs _ hdir, if_true]
    exact ih hthere
  | case5 here part rest hup hlong next hdir hfile hlast =>
    -- the file is still there, and no directory has taken its place
    have hdir' : ¬ t'.isDirAt (here ++ [part]) := fun hdir' => by
      rcases h.apart _ hdir' with hold | hnone
      · exact hdir hold
      · simp [next, hnone] at hfile
    rw [follow, if_neg hup, if_neg hlong]
    simp only [hdir', h.files _ hfile, hlast, if_true, next]
    rfl
  | case6 => simp [Found.isThere] at hthere
  | case7 => simp [Found.isThere] at hthere

/-- A path that leads somewhere leads there in a tree that has grown. -/
lemma Grows.find_eq (h : Grows t t') (hthere : (t.find p).isThere) : t'.find p = t.find p := by
  rw [find] at hthere ⊢
  rw [find]
  split_ifs at hthere ⊢
  · rfl
  · rfl
  · rw [show t'.start p = t.start p by rw [start, start, h.cwd]]
    exact h.follow_eq _ _ hthere

lemma Grows.find_file (h : Grows t t') {l : Location} (hp : t.find p = .file l) :
    t'.find p = .file l := by
  rw [h.find_eq (by rw [hp]; rfl), hp]

lemma Grows.find_directory (h : Grows t t') {l : Location} (hp : t.find p = .directory l) :
    t'.find p = .directory l := by
  rw [h.find_eq (by rw [hp]; rfl), hp]

/-! ## Effects -/

/-- What has been done to the first tree to get the second: files at paths in `fs` may be new or
have another content, and directories at paths in `ds` may be new. -/
structure Touches (fs ds : List Path) (t t' : FileTree) : Prop extends Grows t t' where
  file?_eq : ∀ l, t'.file? l = t.file? l ∨ ∃ p ∈ fs, t'.find p = .file l
  isDirAt_eq : ∀ l, t'.isDirAt l → t.isDirAt l ∨ ∃ p ∈ ds, t'.find p = .directory l

namespace Touches

variable {fs ds fs' ds' : List Path}

lemma refl (t : FileTree) : Touches fs ds t t :=
  ⟨.refl t, fun _ => .inl rfl, fun _ h => .inl h⟩

lemma trans (h : Touches fs ds t t') (h' : Touches fs ds t' t'') : Touches fs ds t t'' where
  toGrows := h.toGrows.trans h'.toGrows
  file?_eq l := by
    rcases h'.file?_eq l with heq | hnew
    · rcases h.file?_eq l with hold | ⟨p, hp, hfind⟩
      · exact .inl (heq.trans hold)
      · exact .inr ⟨p, hp, h'.find_file hfind⟩
    · exact .inr hnew
  isDirAt_eq l hl := by
    rcases h'.isDirAt_eq l hl with hmid | hnew
    · rcases h.isDirAt_eq l hmid with hold | ⟨p, hp, hfind⟩
      · exact .inl hold
      · exact .inr ⟨p, hp, h'.find_directory hfind⟩
    · exact .inr hnew

lemma mono (h : Touches fs ds t t') (hfs : fs ⊆ fs') (hds : ds ⊆ ds') : Touches fs' ds' t t' where
  toGrows := h.toGrows
  file?_eq l := (h.file?_eq l).imp_right fun ⟨p, hp, hfind⟩ => ⟨p, hfs hp, hfind⟩
  isDirAt_eq l hl := (h.isDirAt_eq l hl).imp_right fun ⟨p, hp, hfind⟩ => ⟨p, hds hp, hfind⟩

end Touches

/-! ## Making directories -/

/-- Segments after some that lead to a directory are followed from there. -/
lemma follow_append {here l : Location} {front : List Name} (back : List Name)
    (h : t.follow here front = .directory l) : t.follow here (front ++ back) = t.follow l back := by
  fun_induction t.follow here front with
  | case1 here => rw [Found.directory.inj h, List.nil_append]
  | case2 here part rest hup ih =>
    rw [List.cons_append, follow, if_pos hup]
    exact ih h
  | case4 here part rest hup hlong next hdir ih =>
    rw [List.cons_append, follow, if_neg hup, if_neg hlong]
    simp only [next] at hdir
    simp only [hdir, if_true]
    exact ih h
  | case3 | case5 | case6 | case7 => contradiction

lemma follow_singleton (t : FileTree) (here : Location) (part : Name) :
    t.follow here [part] =
      if part = ['.', '.'] then .directory here.dropLast
      else if isLongName part then .tooLong
      else if t.isDirAt (here ++ [part]) then .directory (here ++ [part])
      else if (t.file? (here ++ [part])).isSome then .file (here ++ [part])
      else .nothing := by
  simp [follow]

/-- The last segment of a path is looked up where its other segments lead. -/
lemma find_of_parent {l : Location} {last : Name} (hnull : ¬ hasNull p) (hlong : ¬ isLongPath p)
    (hparent : t.find p.parent = .directory l) (hlast : p.parts.getLast? = some last) :
    t.find p = t.follow l [last] := by
  have hfront : t.follow (t.start p) p.parts.dropLast = .directory l := by
    rw [find] at hparent
    split_ifs at hparent
    exact hparent
  rw [find, if_neg hnull, if_neg hlong, ← follow_append [last] hfront,
    List.dropLast_append_getLast? last hlast]

/-- When a directory can be made: where the path before its last segment leads, there is neither a
directory nor a file of that name. -/
lemma exists_of_makeDirectory (h : t.makeDirectory p = .ok t') : ∃ l last,
    t.find p.parent = .directory l ∧ p.parts.getLast? = some last ∧
      ¬ hasNull p ∧ ¬ isLongPath p ∧ ¬ isLongName last ∧ last ≠ ['.', '.'] ∧
      t.file? (l ++ [last]) = none ∧ t' = { t with dirs := t.dirs ++ [l ++ [last]] } := by
  simp only [makeDirectory] at h
  split at h
  · contradiction
  · next last hlast =>
    cases hparent : t.find p.parent with
    | directory l =>
      simp only [hparent] at h
      split_ifs at h with hnull hlong hname hthere
      simp only [Bool.or_eq_true, beq_iff_eq, not_or, Option.not_isSome_iff_eq_none] at hthere
      exact ⟨l, last, rfl, hlast, hnull, hlong, hname, hthere.1.1, hthere.2,
        (Except.ok.inj h).symm⟩
    | _ =>
      simp only [hparent] at h
      split_ifs at h

/-- A directory that is made is at its path. -/
lemma touches_of_makeDirectory (h : t.makeDirectory p = .ok t') : Touches [] [p] t t' := by
  obtain ⟨l, last, hparent, hlast, hnull, hlong, hname, hup, hfile, hmade⟩ :=
    exists_of_makeDirectory h
  have hdirs (m : Location) : t'.isDirAt m ↔ t.isDirAt m ∨ m = l ++ [last] := by
    simp [hmade, isDirAt, or_assoc]
  have hgrows : Grows t t' :=
    { cwd := by rw [hmade]
      dirs := fun m hm => (hdirs m).mpr (.inl hm)
      files := fun _ hm => by rwa [hmade]
      apart := fun m hm => ((hdirs m).mp hm).imp_right fun (hm : m = _) => hm ▸ hfile }
  have hfind : t'.find p = .directory (l ++ [last]) := by
    rw [find_of_parent hnull hlong (hgrows.find_directory hparent) hlast]
    simp [follow_singleton, hup, hname, (hdirs _).mpr (.inr rfl)]
  exact
    { hgrows with
      file?_eq := fun _ => .inl (by rw [hmade]; rfl)
      isDirAt_eq := fun m hm => ((hdirs m).mp hm).imp_right fun (hm : m = _) =>
        ⟨p, List.mem_singleton_self p, hm ▸ hfind⟩ }

lemma touches_of_ensureDirectory (h : t.ensureDirectory p = .ok t') : Touches [] [p] t t' := by
  rw [ensureDirectory] at h
  split at h
  · next hmade => exact Except.ok.inj h ▸ touches_of_makeDirectory hmade
  · contradiction
  · contradiction
  · split_ifs at h
    exact Except.ok.inj h ▸ .refl t

lemma ensureParents_touches (p : Path) (n : Nat) (t : FileTree) :
    Touches [] (p.leading n) t (ensureParents p n t).2 := by
  induction n generalizing t with
  | zero =>
    rw [ensureParents]
    split
    · next h => exact touches_of_ensureDirectory h
    · exact .refl t
  | succ n ih =>
    rw [ensureParents, Path.leading_succ]
    have hlast {t t' : FileTree}
        (h : t.ensureDirectory { p with parts := p.parts.take (n + 1) } = .ok t') :
        Touches [] (p.leading n ++ [{ p with parts := p.parts.take (n + 1) }]) t t' :=
      (touches_of_ensureDirectory h).mono (List.Subset.refl _) (List.subset_append_right _ _)
    have habove := (ih t).mono (List.Subset.refl _)
      (List.subset_append_left _ [{ p with parts := p.parts.take (n + 1) }])
    split
    · next h => exact hlast h
    · split
      · next h => rwa [h] at habove
      · next h =>
        rw [h] at habove
        split
        · next h' => exact habove.trans (hlast h')
        · exact habove
    · exact .refl t

/-! ## Writing files -/

lemma file?_setFile (t : FileTree) (l : Location) (bytes : List UInt8) (m : Location) :
    (t.setFile l bytes).file? m = if m = l then some bytes else t.file? m := by
  cases hfound : t.files.find? (·.1 == l) with
  | none =>
    have hnew : t.setFile l bytes = { t with files := t.files ++ [(l, bytes)] } := by
      simp [setFile, file?, hfound]
    rw [hnew, file?, List.find?_append]
    split_ifs with hm
    · simp [hm, hfound]
    · simp [file?, Ne.symm hm]
  | some entry =>
    let replace (x : Location × List UInt8) := if x.1 == l then (x.1, bytes) else (x.1, x.2)
    have hold : t.setFile l bytes = { t with files := t.files.map replace } := by
      simp [setFile, file?, hfound, replace]
    have hkeys : (fun x => x.1 == m) ∘ replace = fun x => x.1 == m := by
      funext x
      simp only [Function.comp, replace]
      split <;> rfl
    rw [hold, file?, List.find?_map, hkeys]
    split_ifs with hm
    · have hentry : entry.1 = l := by simpa using List.find?_some hfound
      simp [hm, hfound, replace, hentry]
    · rw [file?, Option.map_map]
      refine Option.map_congr fun x hx => ?_
      have hx : x.1 = m := by simpa using List.find?_some hx
      simp [replace, hx, hm]

lemma grows_setFile (t : FileTree) (l : Location) (bytes : List UInt8) :
    Grows t (t.setFile l bytes) where
  cwd := rfl
  dirs _ hm := hm
  files m hm := by
    rw [file?_setFile]
    split_ifs
    · rfl
    · exact hm
  apart _ hm := .inl hm

/-- A path that leads to nothing, though what comes before its last segment leads to a directory,
leads to a file that is put there. -/
lemma find_setFile_of_nothing {l : Location} {last : Name} (bytes : List UInt8)
    (hfind : t.find p = .nothing) (hparent : t.find p.parent = .directory l)
    (hlast : p.parts.getLast? = some last) :
    (t.setFile (l ++ [last]) bytes).find p = .file (l ++ [last]) := by
  have hnull : ¬ hasNull p := fun h => by simp [find, h] at hfind
  have hlong : ¬ isLongPath p := fun h => by simp [find, h, hnull] at hfind
  have hgrows := grows_setFile t (l ++ [last]) bytes
  rw [find_of_parent hnull hlong hparent hlast, follow_singleton] at hfind
  rw [find_of_parent hnull hlong (hgrows.find_directory hparent) hlast, follow_singleton]
  split_ifs at hfind with hup hname hdir hfile
  have hdir' : ¬ (t.setFile (l ++ [last]) bytes).isDirAt (l ++ [last]) := hdir
  simp [hup, hname, hdir', file?_setFile]

/-- Setting a file touches the path that then leads to it, and nothing else. -/
lemma touches_setFile {l : Location} {bytes : List UInt8}
    (hfind : (t.setFile l bytes).find p = .file l) : Touches [p] [] t (t.setFile l bytes) where
  toGrows := grows_setFile t l bytes
  file?_eq m := by
    rw [file?_setFile]
    split_ifs with hm
    · exact .inr ⟨p, List.mem_singleton_self p, hm ▸ hfind⟩
    · exact .inl rfl
  isDirAt_eq _ hm := .inl hm

/-- Writing makes directories, and then it fails or sets the content of one file, to which the path
then leads. -/
lemma write_cases (t : FileTree) (p : Path) (text : String) :
    ∃ made, Touches [] p.parents t made ∧
      ((∃ e, t.write p text = (.error e, made)) ∨
        ∃ l, t.write p text = (.ok (), made.setFile l (encode text)) ∧
          (made.setFile l (encode text)).find p = .file l) := by
  have hmade := ensureParents_touches p.parent p.parent.parts.length t
  rw [write]
  match ensureParents p.parent p.parent.parts.length t, hmade with
  | (.error e, made), hmade => exact ⟨made, hmade, .inl ⟨e, rfl⟩⟩
  | (.ok (), made), hmade =>
    refine ⟨made, hmade, ?_⟩
    dsimp only
    match hfind : made.find p with
    | .directory _ | .blocked | .tooLong | .unnameable => exact .inl ⟨_, rfl⟩
    | .file l => exact .inr ⟨l, rfl, (grows_setFile made l _).find_file hfind⟩
    | .nothing =>
      match hparent : made.find p.parent, hlast : p.parts.getLast? with
      | .directory l, some last =>
        exact .inr ⟨l ++ [last], rfl, find_setFile_of_nothing _ hfind hparent hlast⟩
      | .directory _, none | .file _, _ | .nothing, _ | .blocked, _ | .tooLong, _
      | .unnameable, _ => exact .inl ⟨_, rfl⟩

lemma write_touches (t : FileTree) (p : Path) (text : String) :
    Touches [p] p.parents t (t.write p text).2 := by
  obtain ⟨made, hmade, ⟨e, hwrite⟩ | ⟨l, hwrite, hfind⟩⟩ := write_cases t p text
  · rw [hwrite]
    exact hmade.mono (List.nil_subset _) (List.Subset.refl _)
  · rw [hwrite]
    exact (hmade.mono (List.nil_subset _) (List.Subset.refl _)).trans
      ((touches_setFile hfind).mono (List.Subset.refl _) (List.nil_subset _))

lemma exists_file_of_write {text : String} (h : t.write p text = (.ok (), t')) :
    ∃ l, t'.find p = .file l ∧ t'.file? l = some text.toUTF8.toList := by
  obtain ⟨made, -, ⟨e, hwrite⟩ | ⟨l, hwrite, hfind⟩⟩ := write_cases t p text
  · simp [hwrite] at h
  · obtain rfl := (Prod.mk.inj (hwrite.symm.trans h)).2
    exact ⟨l, hfind, by rw [file?_setFile, if_pos rfl, encode]⟩

/-! ## Sequences of writes -/

/-- Writes texts to paths one after the other, up to the first failure. -/
def writeAll : List (Path × String) → FileTree → Except FileError Unit × FileTree
  | [], t => (.ok (), t)
  | (p, text) :: rest, t =>
    match t.write p text with
    | (.ok _, t) => writeAll rest t
    | (.error e, t) => (.error e, t)

lemma writeAll_singleton (p : Path) (text : String) (t : FileTree) :
    writeAll [(p, text)] t = t.write p text := by
  rw [writeAll]
  split <;> simp_all [writeAll]

lemma writeAll_append (ws vs : List (Path × String)) (t : FileTree) :
    writeAll (ws ++ vs) t =
      match writeAll ws t with
      | (.ok _, t) => writeAll vs t
      | (.error e, t) => (.error e, t) := by
  induction ws generalizing t with
  | nil => rfl
  | cons w ws ih =>
    rw [List.cons_append, writeAll, writeAll]
    split
    · exact ih _
    · rfl

/-- What writes leave that all succeed: every path leads to a file, which holds the text in UTF-8
unless a later path leads there too. -/
structure Leaves (ws : List (Path × String)) (t t' : FileTree) : Prop
    extends Touches (ws.map (·.1)) ((ws.map (·.1)).flatMap Path.parents) t t' where
  holds : ∀ w later, w :: later <:+ ws → ∃ l, t'.find w.1 = .file l ∧
    ((∀ v ∈ later, t'.find v.1 ≠ .file l) → t'.file? l = some w.2.toUTF8.toList)

/-- The effect of one write and that of the writes after it. -/
lemma Touches.cons {ps : List Path} (h : Touches [p] p.parents t t')
    (hrest : Touches ps (ps.flatMap Path.parents) t' t'') :
    Touches (p :: ps) ((p :: ps).flatMap Path.parents) t t'' := by
  rw [List.flatMap_cons]
  exact (h.mono (by simp) (List.subset_append_left _ _)).trans
    (hrest.mono (List.subset_cons_self _ _) (List.subset_append_right _ _))

lemma Touches.widen {ps qs : List Path} (h : Touches ps (ps.flatMap Path.parents) t t')
    (hps : ps ⊆ qs) : Touches qs (qs.flatMap Path.parents) t t' := by
  refine h.mono hps fun q hq => ?_
  obtain ⟨p, hp, hqp⟩ := List.mem_flatMap.mp hq
  exact List.mem_flatMap.mpr ⟨p, hps hp, hqp⟩

lemma Leaves.nil (t : FileTree) : Leaves [] t t :=
  { Touches.refl t with holds := fun w later h => by simp at h }

lemma Leaves.cons {text : String} {ws : List (Path × String)}
    (hwrite : t.write p text = (.ok (), t')) (hrest : Leaves ws t' t'') :
    Leaves ((p, text) :: ws) t t'' where
  toTouches := by
    have h := write_touches t p text
    rw [hwrite] at h
    exact h.cons hrest.toTouches
  holds w later hsuffix := by
    rcases List.suffix_cons_iff.mp hsuffix with heq | hlater
    · -- the first write: its file keeps its text unless a later path leads there
      obtain ⟨rfl, rfl⟩ := List.cons.inj heq
      obtain ⟨l, hfind, hfile⟩ := exists_file_of_write hwrite
      refine ⟨l, hrest.find_file hfind, fun hother => ?_⟩
      rcases hrest.file?_eq l with hsame | ⟨q, hq, hleads⟩
      · exact hsame.trans hfile
      · obtain ⟨v, hv, rfl⟩ := List.mem_map.mp hq
        exact absurd hleads (hother v hv)
    · exact hrest.holds w later hlater

lemma writeAll_touches (ws : List (Path × String)) (t : FileTree) :
    Touches (ws.map (·.1)) ((ws.map (·.1)).flatMap Path.parents) t (writeAll ws t).2 := by
  induction ws generalizing t with
  | nil => exact .refl t
  | cons w ws ih =>
    have hwrite := write_touches t w.1 w.2
    rw [writeAll]
    split
    · next t' h =>
      rw [h] at hwrite
      exact hwrite.cons (ih t')
    · next e t' h =>
      rw [h] at hwrite
      exact hwrite.cons (.refl t')

lemma leaves_of_writeAll {ws : List (Path × String)} (h : writeAll ws t = (.ok (), t')) :
    Leaves ws t t' := by
  induction ws generalizing t with
  | nil =>
    obtain rfl := (Prod.mk.inj h).2
    exact .nil t
  | cons w ws ih =>
    rw [writeAll] at h
    split at h
    · next hwrite => exact .cons hwrite (ih h)
    · simp at h

end FileTree

end ElementCode
