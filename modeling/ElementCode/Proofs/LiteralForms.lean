import Mathlib
import ElementCode.Literal
import ElementCode.Text.Ranges

/-!
# The literal forms keep their content apart

The two forms in which `ElementCode.Literal` writes content as the body of a literal are
injective: two contents with the same body are the same content.

* A quoted string is written character by character in a code that needs no separator:
  `readChar` takes the first character off a quoted body, whatever follows it
  (`readChar_quotedChar`).
* A text argument is not.  The backslash of an escaped quote looks like one of the content, and
  only the next character tells them apart; no body starts with a quote, and that is enough
  (`textBody_injective`).

`flatMap_append_inj` is the common step from one item to a list of items.  It is stated for any
code without a separator, followed by something that cannot be the start of an item, because
attribute lists are written in the same manner.
-/

namespace ElementCode

/-- A list written item by item in a code without a separator can be taken apart again, when
what follows cannot be taken for a further item. -/
lemma flatMap_append_inj {α β : Type*} {f : α → List β} {P : α → Prop}
    (hf : ∀ a b r s, P a → P b → f a ++ r = f b ++ s → a = b ∧ r = s) {r s : List β}
    (hr : ∀ a u, P a → f a ++ u ≠ r) (hs : ∀ a u, P a → f a ++ u ≠ s) {as bs : List α}
    (ha : ∀ a ∈ as, P a) (hb : ∀ b ∈ bs, P b)
    (h : as.flatMap f ++ r = bs.flatMap f ++ s) : as = bs ∧ r = s := by
  induction as generalizing bs with
  | nil =>
    cases bs with
    | nil => exact ⟨rfl, h⟩
    | cons b bs =>
      rw [List.flatMap_cons, List.append_assoc, List.flatMap_nil, List.nil_append] at h
      exact absurd h.symm (hr b _ (hb b List.mem_cons_self))
  | cons a as ih =>
    rw [List.flatMap_cons, List.append_assoc] at h
    cases bs with
    | nil => exact absurd h (hs a _ (ha a List.mem_cons_self))
    | cons b bs =>
      rw [List.flatMap_cons, List.append_assoc] at h
      obtain ⟨rfl, hrest⟩ :=
        hf a b _ _ (ha a List.mem_cons_self) (hb b List.mem_cons_self) h
      obtain ⟨rfl, rfl⟩ := ih (fun x hx => ha x (List.mem_cons_of_mem _ hx))
        (fun x hx => hb x (List.mem_cons_of_mem _ hx)) hrest
      exact ⟨rfl, rfl⟩

/-- The same for a whole text: a code without a separator and without empty items is injective
on lists. -/
lemma flatMap_injective {α β : Type*} {f : α → List β}
    (hf : ∀ a b r s, f a ++ r = f b ++ s → a = b ∧ r = s) (hne : ∀ a, f a ≠ []) :
    Function.Injective (List.flatMap f) := by
  intro as bs h
  have hend : ∀ a u, True → f a ++ u ≠ [] := by
    intro a u _ hnil
    exact hne a (List.append_eq_nil_iff.1 hnil).1
  refine (flatMap_append_inj (P := fun _ => True) (fun a b r s _ _ => hf a b r s) hend hend
    (fun _ _ => trivial) (fun _ _ => trivial) ?_).1
  rw [List.append_nil, List.append_nil]
  exact h

namespace Literal

/-! ## Reading one character -/

/-- The character that a letter after a backslash stands for. -/
def escapeValue? : Char → Option Char
  | '\\' => some '\\'
  | '"' => some '"'
  | 'n' => some '\n'
  | 'r' => some '\r'
  | 't' => some '\t'
  | 'f' => some '\x0c'
  | _ => none

/-- Reads the digits of a numbered escape up to its closing brace; `seen` is the number that the
digits so far have written, if there were any. -/
def readHex (seen : Option Nat) : List Char → Option (Nat × List Char)
  | [] => none
  | c :: rest =>
    if c = '\x7d' then seen.map (·, rest)
    else (Text.hexValue? c).bind fun d => readHex (some (16 * seen.getD 0 + d)) rest

/-- Reads one character of a quoted body, which may be written as an escape.  A quote that is not
escaped is no part of a body, and neither is a backslash that escapes nothing. -/
def readChar : List Char → Option (Char × List Char)
  | '\\' :: 'u' :: '\x7b' :: rest =>
    (readHex none rest).bind fun (n, after) =>
      if n.isValidChar then some (Char.ofNat n, after) else none
  | '\\' :: c :: rest => (escapeValue? c).map (·, rest)
  | c :: rest => if c = '"' ∨ c = '\\' then none else some (c, rest)
  | [] => none

lemma hexValue?_hexDigit {n : Nat} (hn : n < 16) :
    Text.hexValue? (Text.hexDigit true n) = some n := by
  interval_cases n <;> decide

lemma hexDigit_ne_brace {n : Nat} (hn : n < 16) : Text.hexDigit true n ≠ '\x7d' := by
  interval_cases n <;> decide

lemma readHex_hexDigit {n : Nat} (hn : n < 16) (seen : Option Nat) (rest : List Char) :
    readHex seen (Text.hexDigit true n :: rest) = readHex (some (16 * seen.getD 0 + n)) rest := by
  rw [readHex, if_neg (hexDigit_ne_brace hn), hexValue?_hexDigit hn, Option.bind_some]

/-- A padded number adds its digits to those that were read before it. -/
lemma readHex_hexPad (width n : Nat) (seen : Option Nat) (rest : List Char) :
    readHex seen (Text.hexPad true (width + 1) n ++ rest) =
      readHex (some (16 ^ (width + 1) * seen.getD 0 + n % 16 ^ (width + 1))) rest := by
  induction width generalizing n rest with
  | zero =>
    rw [Text.hexPad, Text.hexPad, List.nil_append, List.singleton_append,
      readHex_hexDigit (Nat.mod_lt _ (by decide))]
    norm_num
  | succ width ih =>
    rw [Text.hexPad, List.append_assoc, List.singleton_append, ih,
      readHex_hexDigit (Nat.mod_lt _ (by decide)), Option.getD_some]
    -- the last digit is the remainder, the digits before it are those of the quotient
    have hsplit : n % 16 ^ (width + 2) = n % 16 + 16 * (n / 16 % 16 ^ (width + 1)) := by
      rw [pow_succ' 16 (width + 1), Nat.mod_mul]
    rw [hsplit]
    congr 2
    ring

/-- What a quoted string writes for a character reads back as that character, whatever
follows. -/
lemma readChar_quotedChar (c : Char) (rest : List Char) :
    readChar (quotedChar c ++ rest) = some (c, rest) := by
  unfold quotedChar
  split_ifs with hslash hquote hn hr ht hf hcontrol
  all_goals simp only [beq_iff_eq] at *
  · subst hslash; rfl
  · subst hquote; rfl
  · subst hn; rfl
  · subst hr; rfl
  · subst ht; rfl
  · subst hf; rfl
  · have hsmall : c.toNat < 16 ^ (3 + 1) := by
      simp only [Bool.or_eq_true, decide_eq_true_eq, beq_iff_eq] at hcontrol
      omega
    rw [List.append_assoc, List.append_assoc]
    simp only [List.cons_append, List.nil_append]
    have hvalid : c.toNat.isValidChar := c.valid
    rw [readChar, readHex_hexPad, Nat.mod_eq_of_lt hsmall, readHex, if_pos rfl, Option.getD_none,
      Nat.mul_zero, Nat.zero_add, Option.map_some, Option.bind_some]
    dsimp only
    rw [if_pos hvalid, Char.ofNat_toNat]
  · rw [List.singleton_append, readChar]
    · rw [if_neg (by simp [hslash, hquote])]
    all_goals simp_all

/-! ## Injectivity of the two forms -/

lemma quotedChar_append_inj (c d : Char) (r s : List Char)
    (h : quotedChar c ++ r = quotedChar d ++ s) : c = d ∧ r = s := by
  have hread := readChar_quotedChar c r
  rw [h, readChar_quotedChar] at hread
  have hpair := Option.some.inj hread
  exact ⟨(congrArg Prod.fst hpair).symm, (congrArg Prod.snd hpair).symm⟩

lemma quotedChar_ne_nil (c : Char) : quotedChar c ≠ [] := by
  intro h
  have hread := readChar_quotedChar c []
  rw [h] at hread
  exact absurd hread (by simp [readChar])

/-- Two strings with the same quoted body are equal. -/
lemma quotedBody_injective : Function.Injective quotedBody :=
  flatMap_injective quotedChar_append_inj quotedChar_ne_nil

lemma textBody_cons (c : Char) (cs : List Char) : textBody (c :: cs) = textChar c ++ textBody cs :=
  List.flatMap_cons

lemma textBody_cons_quote (cs : List Char) : textBody ('"' :: cs) = '\\' :: '"' :: textBody cs :=
  rfl

lemma textBody_cons_of_ne {c : Char} (hc : c ≠ '"') (cs : List Char) :
    textBody (c :: cs) = c :: textBody cs := by
  rw [textBody_cons, textChar, if_neg (by simpa using hc), List.singleton_append]

lemma doubled_cons_slash (cs : List Char) : doubled ('\\' :: cs) = '\\' :: '\\' :: doubled cs := rfl

lemma doubled_cons_of_ne {c : Char} (hc : c ≠ '\\') (cs : List Char) :
    doubled (c :: cs) = c :: doubled cs := by
  have hchar : doubledChar c = [c] := by simp [doubledChar, hc]
  rw [doubled, List.flatMap_cons, hchar, List.singleton_append, ← doubled]

lemma textBody_eq_nil_iff {cs : List Char} : textBody cs = [] ↔ cs = [] := by
  cases cs with
  | nil => exact iff_of_true rfl rfl
  | cons c cs =>
    have hne : textChar c ≠ [] := by
      unfold textChar
      split_ifs <;> simp
    simp [textBody_cons, hne]

/-- The body of a text argument never starts with a quote. -/
lemma textBody_ne_quote_cons (cs rest : List Char) : textBody cs ≠ '"' :: rest := by
  cases cs with
  | nil => simp [textBody]
  | cons c cs =>
    by_cases hc : c = '"'
    · subst hc
      rw [textBody_cons_quote]
      simp
    · rw [textBody_cons_of_ne hc]
      simp [hc]

/-- Two contents with the same body as a text argument are equal. -/
lemma textBody_injective : Function.Injective textBody := by
  intro cs
  induction cs with
  | nil =>
    intro ds h
    exact (textBody_eq_nil_iff.1 h.symm).symm
  | cons c cs ih =>
    intro ds h
    cases ds with
    | nil => exact textBody_eq_nil_iff.1 h
    | cons d ds =>
      -- an escaped quote on one side and a backslash of the content on the other would leave a
      -- body that starts with a quote
      by_cases hc : c = '"' <;> by_cases hd : d = '"'
      · subst hc hd
        rw [textBody_cons_quote, textBody_cons_quote] at h
        rw [ih (List.cons.inj (List.cons.inj h).2).2]
      · subst hc
        rw [textBody_cons_quote, textBody_cons_of_ne hd] at h
        exact absurd (List.cons.inj h).2.symm (textBody_ne_quote_cons _ _)
      · subst hd
        rw [textBody_cons_of_ne hc, textBody_cons_quote] at h
        exact absurd (List.cons.inj h).2 (textBody_ne_quote_cons _ _)
      · rw [textBody_cons_of_ne hc, textBody_cons_of_ne hd] at h
        obtain ⟨rfl, hrest⟩ := List.cons.inj h
        rw [ih hrest]

end Literal

end ElementCode
