import ElementCode.Path
import ElementCode.Proofs.WellNested

/-!
# Home directories

A path that starts with a tilde and the name of a user is taken from the home directory of this
user.  `Path.Expands` says which path is meant, and `Path.Homeless` why there is none, without the
function that puts the directory in; the function gives exactly these (`expandUser_eq_ok_iff`,
`expandUser_eq_error_iff`).

The function cuts the slashes at the end of a home directory off before it reads the rest as a path.
They say nothing (`ofString_rdropWhile`), unless there is nothing else: then the directory is the
top.
-/

namespace ElementCode.Path

/-- The path of a home directory; slashes alone are the top. -/
def ofHome (home : List Char) : Path :=
  if ∀ c ∈ home, c = '/' then ⟨['/'], []⟩ else ofString (String.ofList home)

/-- A path with a home directory put in is another path. -/
inductive Expands (homes : Homes) : Path → Path → Prop
  /-- Without a tilde at the start, a path stays as it is. -/
  | plain {p : Path} : (∀ user rest, p ≠ ⟨[], ('~' :: user) :: rest⟩) → Expands homes p p
  | home {user : Name} {rest : List Name} {home : List Char} : '\x00' ∉ user →
    homes user = some home → home.head? ≠ some '~' →
    Expands homes ⟨[], ('~' :: user) :: rest⟩
      { ofHome home with parts := (ofHome home).parts ++ rest }

/-- There is no home directory to put into a path. -/
inductive Homeless (homes : Homes) : Path → HomeError → Prop
  | nullByte {user : Name} {rest : List Name} : '\x00' ∈ user →
    Homeless homes ⟨[], ('~' :: user) :: rest⟩ .nullByte
  /-- The user has none, or one that starts with a tilde itself. -/
  | unknown {user : Name} {rest : List Name} : '\x00' ∉ user →
    (∀ home, homes user = some home → home.head? = some '~') →
    Homeless homes ⟨[], ('~' :: user) :: rest⟩ .unknown

/-! ## Slashes at the end of a path -/

lemma splitAtChar_append_sep (sep : Char) (cs : List Char) :
    Text.splitAtChar sep (cs ++ [sep]) = Text.splitAtChar sep cs ++ [[]] := by
  induction cs with
  | nil => simp [Text.splitAtChar]
  | cons c cs ih =>
    rw [List.cons_append, Text.splitAtChar, Text.splitAtChar, ih]
    cases hsplit : Text.splitAtChar sep cs with
    | nil => exact absurd hsplit (Markup.splitAtChar_ne_nil sep cs)
    | cons piece rest =>
      by_cases hc : c = sep <;> simp [hc]

/-- A slash at the end of a path says nothing, if there is more than slashes before it. -/
lemma ofString_append_slash {cs : List Char} (h : ¬ ∀ c ∈ cs, c = '/') :
    ofString (String.ofList (cs ++ ['/'])) = ofString (String.ofList cs) := by
  have hslashes : (cs ++ ['/']).takeWhile (· == '/') = cs.takeWhile (· == '/') := by
    have hlength : (cs.takeWhile (· == '/')).length ≠ cs.length := by
      intro hlength
      have hall := (List.takeWhile_prefix (· == '/')).eq_of_length hlength
      exact h (by simpa [List.takeWhile_eq_self_iff] using hall)
    rw [List.takeWhile_append, if_neg hlength]
  simp only [ofString, String.toList_ofList, hslashes, splitAtChar_append_sep, List.filter_append]
  simp

lemma ofString_rdropWhile {cs : List Char} (h : ¬ ∀ c ∈ cs, c = '/') :
    ofString (String.ofList (cs.rdropWhile (· == '/'))) = ofString (String.ofList cs) := by
  induction cs using List.reverseRecOn with
  | nil => simp at h
  | append_singleton cs c ih =>
    by_cases hc : c = '/'
    · subst hc
      have hcs : ¬ ∀ c ∈ cs, c = '/' := by simpa [or_imp, forall_and] using h
      rw [List.rdropWhile_concat_pos _ _ _ (by simp), ih hcs, ofString_append_slash hcs]
    · rw [List.rdropWhile_concat_neg _ _ _ (by simpa using hc)]

/-! ## What the function gives -/

variable {homes : Homes} {p q : Path}

lemma expandUser_of_ne (h : ∀ user rest, p ≠ ⟨[], ('~' :: user) :: rest⟩) :
    p.expandUser homes = .ok p := by
  unfold expandUser
  split
  · next user rest => exact absurd rfl (h user rest)
  · rfl

/-- A home directory as the function reads it. -/
lemma ofString_trimmed (home : List Char) :
    ofString (if (home.rdropWhile (· == '/')).isEmpty then "/"
      else String.ofList (home.rdropWhile (· == '/'))) = ofHome home := by
  have hempty : home.rdropWhile (· == '/') = [] ↔ ∀ c ∈ home, c = '/' := by
    rw [List.rdropWhile_eq_nil_iff]
    simp
  rw [ofHome]
  by_cases hall : ∀ c ∈ home, c = '/'
  · rw [if_pos hall, hempty.2 hall]
    rfl
  · rw [if_neg hall, if_neg (by rwa [List.isEmpty_iff, hempty]), ofString_rdropWhile hall]

/-- Slashes at its end do not change how a home directory starts, if it does not start with one. -/
lemma head?_rdropWhile {home : List Char} {c : Char} (hc : c ≠ '/') :
    (home.rdropWhile (· == '/')).head? = some c ↔ home.head? = some c := by
  obtain ⟨slashes, hslashes⟩ := List.rdropWhile_prefix (· == '/') (l := home)
  cases htrimmed : home.rdropWhile (· == '/') with
  | nil =>
    have hall : ∀ x ∈ home, x = '/' := by
      simpa using List.rdropWhile_eq_nil_iff.1 htrimmed
    refine iff_of_false (by simp) fun hhead => hc (hall c (List.mem_of_head? hhead))
  | cons x xs =>
    rw [htrimmed] at hslashes
    rw [← hslashes]
    rfl

lemma expandUser_of_tilde (homes : Homes) (user : Name) (rest : List Name) :
    expandUser homes ⟨[], ('~' :: user) :: rest⟩ =
      if '\x00' ∈ user then .error .nullByte
      else
        match homes user with
        | none => .error .unknown
        | some home =>
          if home.head? = some '~' then .error .unknown
          else .ok { ofHome home with parts := (ofHome home).parts ++ rest } := by
  have hhead (home : List Char) : ((home.rdropWhile (· == '/')).head? == some '~') = true ↔
      home.head? = some '~' := by
    rw [beq_iff_eq, head?_rdropWhile (by decide)]
  have htrim (home : List Char) : (home.reverse.dropWhile (· == '/')).reverse =
      home.rdropWhile (· == '/') := rfl
  cases hhome : homes user with
  | none => simp only [expandUser, hhome, List.contains_iff_mem]
  | some home =>
    simp only [expandUser, hhome, htrim, hhead, ofString_trimmed, List.contains_iff_mem]

/-- What the function gives is meant, and where it fails there is nothing to put in. -/
lemma expandUser_sound (homes : Homes) (p : Path) :
    (∀ q, p.expandUser homes = .ok q → p.Expands homes q) ∧
      ∀ e, p.expandUser homes = .error e → p.Homeless homes e := by
  by_cases hplain : ∀ user rest, p ≠ ⟨[], ('~' :: user) :: rest⟩
  · rw [expandUser_of_ne hplain]
    exact ⟨fun q hq => Except.ok.inj hq ▸ .plain hplain, by simp⟩
  · push Not at hplain
    obtain ⟨user, rest, rfl⟩ := hplain
    rw [expandUser_of_tilde]
    by_cases hnull : '\x00' ∈ user
    · rw [if_pos hnull]
      exact ⟨by simp, fun e he => Except.error.inj he ▸ .nullByte hnull⟩
    · rw [if_neg hnull]
      cases hhome : homes user with
      | none => exact ⟨by simp, fun e he => Except.error.inj he ▸ .unknown hnull (by simp [hhome])⟩
      | some home =>
        by_cases htilde : home.head? = some '~'
        · simp only [if_pos htilde]
          have hunknown : Homeless homes ⟨[], ('~' :: user) :: rest⟩ .unknown :=
            .unknown hnull (by simpa [hhome] using htilde)
          exact ⟨by simp, fun e he => Except.error.inj he ▸ hunknown⟩
        · simp only [if_neg htilde]
          exact ⟨fun q hq => Except.ok.inj hq ▸ .home hnull hhome htilde, by simp⟩

theorem expandUser_eq_ok_iff : p.expandUser homes = .ok q ↔ p.Expands homes q := by
  refine ⟨(expandUser_sound homes p).1 q, ?_⟩
  rintro (hplain | ⟨hnull, hhome, htilde⟩)
  · exact expandUser_of_ne hplain
  · rw [expandUser_of_tilde, if_neg hnull, hhome]
    exact if_neg htilde

theorem expandUser_eq_error_iff {e : HomeError} :
    p.expandUser homes = .error e ↔ p.Homeless homes e := by
  refine ⟨(expandUser_sound homes p).2 e, ?_⟩
  rintro (hnull | ⟨hnull, hhomes⟩)
  · rw [expandUser_of_tilde, if_pos hnull]
  · rw [expandUser_of_tilde, if_neg hnull]
    split
    · rfl
    · next home hhome => exact if_pos (hhomes home hhome)

end ElementCode.Path
