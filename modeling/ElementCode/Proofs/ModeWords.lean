import Mathlib
import ElementCode.Config

/-!
# Words for prefix modes

A prefix mode is set by its word in any case, with white space around it.  The white space and the
cases are those of Unicode: there are twenty-nine blank characters, and over a thousand characters
have a lower case form.  Only two of these forms are letters of ASCII that have a capital outside of
it, `i` and `k`, and the words for the modes hold neither.  So a text sets a mode exactly when it is
its word in some ASCII case, with white space around it (`ofWord?_eq_some_iff`).
-/

namespace ElementCode

namespace Text

/-! ## Lower case letters -/

lemma toNat_of_isLower {d : Char} (h : d.isLower) : 97 ≤ d.toNat ∧ d.toNat ≤ 122 := by
  simp only [Char.isLower, Bool.and_eq_true, decide_eq_true_eq, ge_iff_le,
    UInt32.le_iff_toNat_le] at h
  exact h

lemma isUpper_iff {c : Char} : c.isUpper ↔ 65 ≤ c.toNat ∧ c.toNat ≤ 90 := by
  simp only [Char.isUpper, decide_eq_true_eq, ge_iff_le, UInt32.le_iff_toNat_le]
  exact Iff.rfl

lemma toLower_of_not_capital {c : Char} (h : ¬ (65 ≤ c.toNat ∧ c.toNat ≤ 90)) : c.toLower = c := by
  unfold Char.toLower
  rw [dif_neg]
  simp only [ge_iff_le, UInt32.le_iff_toNat_le]
  exact h

lemma toLower_of_capital {c : Char} (h : 65 ≤ c.toNat ∧ c.toNat ≤ 90) :
    c.toLower = Char.ofNat (c.toNat + 32) := by
  have hcapital : ∀ n, 65 ≤ n → n ≤ 90 → (Char.ofNat n).toLower = Char.ofNat (n + 32) := by
    intro n hlow hhigh
    interval_cases n <;> rfl
  have hc := hcapital c.toNat h.1 h.2
  rwa [Char.ofNat_toNat] at hc

/-- Three kinds of runs: the capitals of ASCII, the sign for kelvin, and runs that stay outside of
ASCII. -/
lemma lowerRuns_cases : ∀ r ∈ lowerRuns, r = (0x41, 0x5A, 1, 32) ∨ r = (0x212A, 0x212A, 1, -8383) ∨
    (0x80 ≤ r.1 ∧ 0x80 ≤ (r.1 : Int) + r.2.2.2) := by
  decide +kernel

/-- The same for the run that a character belongs to. -/
lemma cases_of_find? {n : Nat} {r : LowerRun} (h : lowerRuns.find? (·.contains n) = some r) :
    (65 ≤ n ∧ n ≤ 90 ∧ r.2.2.2 = 32) ∨ (n = 0x212A ∧ r.2.2.2 = -8383) ∨
      (0x80 ≤ n ∧ 0x80 ≤ (n : Int) + r.2.2.2) := by
  have hcontains : r.contains n := List.find?_some (p := fun r : LowerRun => r.contains n) h
  simp only [LowerRun.contains, Bool.and_eq_true, decide_eq_true_eq] at hcontains
  obtain ⟨⟨hlow, hhigh⟩, -⟩ := hcontains
  rcases lowerRuns_cases r (List.mem_of_find?_eq_some h) with rfl | rfl | hbeyond
  · exact .inl ⟨hlow, hhigh, rfl⟩
  · exact .inr (.inl ⟨Nat.le_antisymm hhigh hlow, rfl⟩)
  · exact .inr (.inr ⟨by omega, by omega⟩)

/-- A small letter that no character outside of ASCII has as its lower case form. -/
def IsOwn (d : Char) : Prop := d.isLower ∧ d ≠ 'i' ∧ d ≠ 'k'

/-- Where the lower case form of a character holds a small letter other than `i` and `k`, the
character is one of ASCII. -/
lemma toNat_lt_of_mem_lowerChar {c d : Char} (hd : IsOwn d) (h : d ∈ lowerChar c) :
    c.toNat < 0x80 := by
  obtain ⟨hlower, hi, hk⟩ := hd
  have hbounds := toNat_of_isLower hlower
  by_contra hc
  unfold lowerChar at h
  split_ifs at h with hdotted
  · -- the capital with a dot becomes `i` and a combining dot
    rcases List.mem_pair.1 h with rfl | rfl
    · exact hi rfl
    · exact absurd hlower (by decide)
  · split at h
    · next r hr =>
      obtain rfl := List.mem_singleton.1 h
      rcases cases_of_find? hr with hcapital | ⟨hkelvin, hshift⟩ | hbeyond
      · omega
      · rw [hkelvin, hshift] at hk
        exact hk rfl
      · rw [Char.toNat_ofNat] at hbounds
        split_ifs at hbounds <;> omega
    · obtain rfl := List.mem_singleton.1 h
      omega

/-- On ASCII the lower case forms are those of its capitals. -/
lemma lowerChar_of_lt {c : Char} (hc : c.toNat < 0x80) : lowerChar c = [c.toLower] := by
  have hdotted : ¬ (c.toNat == 0x130) := by
    rw [beq_iff_eq]
    omega
  unfold lowerChar
  rw [if_neg hdotted]
  cases hfind : lowerRuns.find? (·.contains c.toNat) with
  | some r =>
    rcases cases_of_find? hfind with ⟨hlow, hhigh, hshift⟩ | hkelvin | hbeyond
    · rw [toLower_of_capital ⟨hlow, hhigh⟩]
      simp only [hshift]
      congr 1
    · omega
    · omega
  | none =>
    have hnone := List.find?_eq_none.1 hfind (0x41, 0x5A, 1, 32) List.mem_cons_self
    rw [toLower_of_not_capital]
    intro hcapital
    refine hnone ?_
    simp only [LowerRun.contains, Nat.mod_one, beq_self_eq_true, Bool.and_true, Bool.and_eq_true,
      decide_eq_true_eq]
    exact hcapital

lemma lowerChar_ne_nil (c : Char) : lowerChar c ≠ [] := by
  unfold lowerChar
  split_ifs
  · simp
  · split <;> simp

/-- A text has a lower case form made of such letters exactly when the text is this form in some
ASCII case. -/
lemma lowerAfter_eq_iff {word : List Char} (hword : ∀ d ∈ word, IsOwn d) (before cs : List Char) :
    lowerAfter before cs = word ↔ cs.map Char.toLower = word := by
  induction cs generalizing before word with
  | nil => exact Iff.rfl
  | cons c cs ih =>
    by_cases hc : c.toNat < 0x80
    · have hsigma : ¬ (c == 'Σ' && startsCased before && !startsCased cs) := by
        intro hfinal
        simp only [Bool.and_eq_true, beq_iff_eq] at hfinal
        rw [hfinal.1.1] at hc
        exact absurd hc (by decide)
      rw [lowerAfter, if_neg hsigma, lowerChar_of_lt hc, List.singleton_append, List.map_cons]
      cases word with
      | nil => simp
      | cons d word =>
        rw [List.cons.injEq, List.cons.injEq, ih fun e he => hword e (List.mem_cons_of_mem d he)]
    · refine iff_of_false (fun h => ?_) (fun h => ?_)
      · -- the first letter of its form would be one of the word
        rw [lowerAfter] at h
        split_ifs at h with hsigma
        · have hmem : 'ς' ∈ word := by
            rw [← h]
            exact List.mem_cons_self
          exact absurd (hword _ hmem).1 (by decide)
        · obtain ⟨d, hd⟩ := List.exists_mem_of_ne_nil _ (lowerChar_ne_nil c)
          have hmem : d ∈ word := by
            rw [← h]
            exact List.mem_append_left _ hd
          exact hc (toNat_lt_of_mem_lowerChar (hword d hmem) hd)
      · have hmem : c.toLower ∈ word := by
          rw [← h]
          exact List.mem_cons_self
        rw [toLower_of_not_capital (by omega)] at hmem
        have hbounds := toNat_of_isLower (hword c hmem).1
        omega

/-! ## White space around a word -/

/-- A text is its trimmed form with white space around it. -/
lemma exists_eq_append_trim (cs : List Char) :
    ∃ before after, cs = before ++ (trim cs ++ after) ∧ ∀ c ∈ before ++ after, isBlank c := by
  have hend : cs.dropWhile isBlank =
      trim cs ++ ((cs.dropWhile isBlank).reverse.takeWhile isBlank).reverse := by
    rw [trim, trimBy, ← List.reverse_append, List.takeWhile_append_dropWhile, List.reverse_reverse]
  refine ⟨cs.takeWhile isBlank, ((cs.dropWhile isBlank).reverse.takeWhile isBlank).reverse, ?_, ?_⟩
  · rw [← hend, List.takeWhile_append_dropWhile]
  · intro c hc
    rcases List.mem_append.1 hc with hc | hc
    · exact List.mem_takeWhile_imp hc
    · exact List.mem_takeWhile_imp (List.mem_reverse.1 hc)

/-- White space around a word without white space is trimmed. -/
lemma trim_append {before word after : List Char} (hblank : ∀ c ∈ before ++ after, isBlank c)
    (hword : ∀ c ∈ word, isBlank c = false) : trim (before ++ (word ++ after)) = word := by
  rw [List.forall_mem_append] at hblank
  have hdrop : ∀ cs : List Char, (∀ c ∈ cs, isBlank c = false) → cs.dropWhile isBlank = cs := by
    intro cs hcs
    cases cs with
    | nil => rfl
    | cons c cs => rw [List.dropWhile_cons_of_neg (by simp [hcs c List.mem_cons_self])]
  rw [trim, trimBy, List.dropWhile_append_of_pos hblank.1]
  cases word with
  | nil =>
    rw [List.nil_append, List.dropWhile_eq_nil_iff.2 hblank.2]
    rfl
  | cons c word =>
    have hstart : (c :: word ++ after).dropWhile isBlank = c :: word ++ after := by
      rw [List.cons_append, List.dropWhile_cons_of_neg (by simp [hword c List.mem_cons_self])]
    have hafter : ∀ d ∈ after.reverse, isBlank d := fun d hd => hblank.2 d (List.mem_reverse.1 hd)
    have hreverse : ∀ d ∈ (c :: word).reverse, isBlank d = false := fun d hd =>
      hword d (List.mem_reverse.1 hd)
    rw [hstart, List.reverse_append, List.dropWhile_append_of_pos hafter, hdrop _ hreverse,
      List.reverse_reverse]

lemma isAlpha_of_isLower_toLower {c : Char} (h : c.toLower.isLower) : c.isAlpha := by
  by_cases hcapital : 65 ≤ c.toNat ∧ c.toNat ≤ 90
  · rw [Char.isAlpha, isUpper_iff.2 hcapital, Bool.true_or]
  · rw [toLower_of_not_capital hcapital] at h
    rw [Char.isAlpha, h, Bool.or_true]

/-- A letter is no white space. -/
lemma isBlank_of_isAlpha {c : Char} (h : c.isAlpha) : isBlank c = false := by
  have hbounds : 65 ≤ c.toNat ∧ c.toNat ≤ 122 := by
    rcases Bool.or_eq_true_iff.1 h with h | h
    · have hcapital := isUpper_iff.1 h
      omega
    · have hsmall := toNat_of_isLower h
      omega
  simp only [isBlank, Bool.or_eq_false_iff, Bool.and_eq_false_iff, decide_eq_false_iff_not,
    beq_eq_false_iff_ne]
  omega

end Text

namespace PrefixMode

/-- A text that is the word for a mode in some ASCII case, with white space around it. -/
def Spells (m : PrefixMode) (cs : List Char) : Prop :=
  ∃ before spelled after, cs = before ++ (spelled ++ after) ∧
    (∀ c ∈ before ++ after, Text.isBlank c) ∧ spelled.map Char.toLower = m.word.toList

lemma isOwn_of_mem_word (m : PrefixMode) : ∀ d ∈ m.word.toList, Text.IsOwn d := by
  cases m <;> simp [word, Text.IsOwn]

/-- A word in some ASCII case is made of letters of ASCII. -/
lemma isAlpha_of_map_toLower {m : PrefixMode} {cs : List Char}
    (h : cs.map Char.toLower = m.word.toList) : ∀ c ∈ cs, c.isAlpha := by
  intro c hc
  have hlower : c.toLower ∈ m.word.toList := by
    rw [← h]
    exact List.mem_map_of_mem hc
  exact Text.isAlpha_of_isLower_toLower (isOwn_of_mem_word m _ hlower).1

/-- A text that spells a mode holds white space and letters of ASCII only. -/
lemma Spells.isBlank_or_isAlpha {m : PrefixMode} {cs : List Char} (h : m.Spells cs) :
    ∀ c ∈ cs, Text.isBlank c ∨ c.isAlpha := by
  obtain ⟨before, spelled, after, rfl, hblank, hword⟩ := h
  rw [List.forall_mem_append] at hblank
  rw [List.forall_mem_append, List.forall_mem_append]
  exact ⟨fun c hc => .inl (hblank.1 c hc), fun c hc => .inr (isAlpha_of_map_toLower hword c hc),
    fun c hc => .inl (hblank.2 c hc)⟩

/-- A text sets a mode exactly when it spells it. -/
lemma ofWord?_eq_some_iff (s : String) (m : PrefixMode) :
    ofWord? s = some m ↔ m.Spells s.toList := by
  have hown := isOwn_of_mem_word m
  constructor
  · intro h
    have hlower : m.word.toList = Text.lower (Text.trim s.toList) := by
      simpa using List.find?_some h
    obtain ⟨before, after, hs, hblank⟩ := Text.exists_eq_append_trim s.toList
    exact ⟨before, _, after, hs, hblank, (Text.lowerAfter_eq_iff hown [] _).1 hlower.symm⟩
  · rintro ⟨before, spelled, after, hs, hblank, hword⟩
    have hletters : ∀ c ∈ spelled, Text.isBlank c = false := fun c hc =>
      Text.isBlank_of_isAlpha (isAlpha_of_map_toLower hword c hc)
    have hlower : Text.lower spelled = m.word.toList :=
      (Text.lowerAfter_eq_iff hown [] spelled).2 hword
    simp only [ofWord?]
    rw [hs, Text.trim_append hblank hletters, hlower]
    cases m <;> rfl

end PrefixMode

end ElementCode
