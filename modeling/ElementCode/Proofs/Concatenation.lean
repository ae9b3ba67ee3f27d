import ElementCode.Proofs.WellNested

/-!
# Streams one after the other

Token streams need not be well nested, and a stream says nowhere whether it is complete: a missing
closer only shows in the count of the tokens that a loop has stepped over, which then goes beyond
the end of the stream.  This count decides what happens when further tokens follow.

* A result that stays within the stream is the same for every longer stream (`local_blocks`).  A
  step stays within when it takes no more tokens than there are, a loop when it stops in front of a
  token, and an error always does, unless it is for a token that is missing.
* A loop that ends exactly at the end of the stream has met no closer for itself, but nothing
  inside of it has reached beyond the end.  It goes on with the tokens that follow
  (`blocks_append_of_length`).

Together they say how the documents of two streams make up the document of both
(`document_append`).
-/

namespace ElementCode.Markup

/-! ## Results within a stream -/

section Within

variable {α β : Type}

/-- A result on the stream `ts` that leaves at least `spare` of its tokens, or an error that
further tokens cannot mend. -/
def Within (spare : Nat) (ts : List Token) : Except BuildError (α × Nat) → Prop
  | .ok (_, n) => n + spare ≤ ts.length
  | .error e => e ≠ .missingToken

/-- When `f` gives a result within the stream `ts`, the tokens `us` behind it make no difference. -/
def Local (spare : Nat) (f : List Token → Except BuildError (α × Nat)) (ts us : List Token) :
    Prop :=
  Within spare ts (f ts) → f (ts ++ us) = f ts

lemma within_cons_iff {t : Token} {rest : List Token} {r : Except BuildError (α × Nat)} :
    Within 1 (t :: rest) r ↔ Within 0 rest r := by
  rcases r with e | ⟨a, n⟩
  · exact Iff.rfl
  · simp only [Within, List.length_cons]
    omega

/-- A step and the loop after it. -/
def follow (step loop : List Token → Except BuildError (List α × Nat)) (rest : List Token) :
    Except BuildError (List α × Nat) := do
  let (found, used) ← step rest
  let (more, n) ← loop (rest.drop used)
  return (found ++ more, used + 1 + n)

/-- A construct that holds what an inner loop gives and takes the closer of the loop as well. -/
def enclose (wrap : β → α) (loop : List Token → Except BuildError (β × Nat)) (rest : List Token) :
    Except BuildError (List α × Nat) := do
  let (inner, n) ← loop rest
  return ([wrap inner], n + 1)

variable {step loop : List Token → Except BuildError (List α × Nat)} {rest us : List Token}

lemma follow_of_ok {found : List α} {used : Nat} (h : step rest = .ok (found, used)) :
    follow step loop rest = after [] found (used + 1) (loop (rest.drop used)) := by
  rw [follow, h]
  rfl

lemma follow_of_error {e : BuildError} (h : step rest = .error e) :
    follow step loop rest = .error e := by
  rw [follow, h]
  rfl

lemma exists_of_enclose_eq_ok {wrap : β → α} {inner : List Token → Except BuildError (β × Nat)}
    {found : List α} {used : Nat} (h : enclose wrap inner rest = .ok (found, used)) :
    ∃ n, used = n + 1 := by
  rw [enclose] at h
  rcases hinner : inner rest with e | ⟨b, n⟩
  · rw [hinner] at h
    exact absurd h (by simp [bind, Except.bind])
  · rw [hinner] at h
    exact ⟨n, (Prod.mk.inj (Except.ok.inj h)).2.symm⟩

lemma within_after_iff {found : List α} {used : Nat} {more : Except BuildError (List α × Nat)}
    {ts : List Token} : Within 0 ts (after [] found used more) ↔ Within used ts more := by
  rcases more with e | ⟨a, n⟩
  · exact Iff.rfl
  · simp only [after, settle, bind, Except.bind, pure, Except.pure, Within]
    omega

/-- A loop with a result within the tokens after a step, of which it leaves one, shows that the
step has not gone beyond them. -/
lemma le_length_of_within {used : Nat} (hend : loop [] = .ok ([], 0))
    (h : Within (used + 1) rest (loop (rest.drop used))) : used ≤ rest.length := by
  by_contra hbeyond
  rw [List.drop_eq_nil_of_le (by omega), hend] at h
  simp only [Within] at h
  omega

/-- A step and the loop after it look at no token behind the stream when neither of them does. -/
lemma Local.follow (hend : loop [] = .ok ([], 0)) (hstep : Local 0 step rest us)
    (hloop : ∀ found used, step rest = .ok (found, used) → Local 1 loop (rest.drop used) us) :
    Local 0 (follow step loop) rest us := by
  intro hwithin
  rcases hresult : step rest with e | ⟨found, used⟩
  · have hlonger : step (rest ++ us) = .error e := by
      rw [follow_of_error hresult] at hwithin
      rw [hstep (by rw [hresult]; exact hwithin), hresult]
    rw [follow_of_error hresult, follow_of_error hlonger]
  · rw [follow_of_ok hresult, within_after_iff] at hwithin
    have hused := le_length_of_within hend hwithin
    have hlonger : step (rest ++ us) = .ok (found, used) := by
      rw [hstep (by rw [hresult]; exact hused), hresult]
    have hwithin' : Within 1 (rest.drop used) (loop (rest.drop used)) := by
      revert hwithin
      rcases loop (rest.drop used) with e | ⟨more, n⟩
      · exact id
      · simp only [Within, List.length_drop]
        omega
    rw [follow_of_ok hresult, follow_of_ok hlonger, List.drop_append_of_le_length hused,
      hloop found used hresult hwithin']

/-- A construct with a closer looks at no token behind the stream when its inner loop does not. -/
lemma Local.enclose {inner : List Token → Except BuildError (β × Nat)} (wrap : β → α)
    (h : Local 1 inner rest us) : Local 0 (enclose wrap inner) rest us := by
  intro hwithin
  have hlonger : inner (rest ++ us) = inner rest := by
    refine h ?_
    revert hwithin
    rw [Markup.enclose]
    rcases inner rest with e | ⟨b, n⟩
    · exact id
    · exact id
  rw [Markup.enclose, hlonger, ← Markup.enclose]

end Within

/-! ## The loops and their steps -/

section Loops

variable {stop : List Kind} {t : Token} {rest us : List Token}

lemma blocks_nil (stop : List Kind) : blocks stop [] = .ok ([], 0) := by rw [blocks]

lemma blocks_of_mem (h : t.kind ∈ stop) : blocks stop (t :: rest) = .ok ([], 0) := by
  rw [blocks, if_pos h]

lemma blocks_of_notMem (h : t.kind ∉ stop) :
    blocks stop (t :: rest) = follow (blocksAt t) (blocks stop) rest := by
  rw [blocks, if_neg h]
  rfl

lemma blocksAt_bulletList (h : t.kind = .bulletListOpen) :
    blocksAt t = enclose .bulletList listItems := by
  funext rest
  simp only [blocksAt, h]
  rfl

lemma blocksAt_blockQuote (h : t.kind = .blockquoteOpen) :
    blocksAt t = enclose .blockQuote (blocks [.blockquoteClose]) := by
  funext rest
  simp only [blocksAt, h]
  rfl

lemma listItems_nil : listItems [] = .ok ([], 0) := by rw [listItems]

lemma listItems_item (h : t.kind = .listItemOpen) :
    listItems (t :: rest) = follow (enclose id (blocks [.listItemClose])) listItems rest := by
  rw [listItems, h, follow, enclose]
  rcases blocks [.listItemClose] rest with e | ⟨item, n⟩
  · rfl
  · rcases hmore : listItems (rest.drop (n + 1)) with e | ⟨more, m⟩
    · simp only [bind, Except.bind, hmore, pure, Except.pure]
    · simp only [bind, Except.bind, hmore, pure, Except.pure, id_eq, List.singleton_append]

lemma listItems_stray (hclose : t.kind ≠ .bulletListClose) (hitem : t.kind ≠ .listItemOpen) :
    listItems (t :: rest) = follow (fun _ => .ok ([], 0)) listItems rest := by
  rw [listItems, follow]
  · rcases hmore : listItems rest with e | ⟨more, m⟩
    · simp only [bind, Except.bind, List.drop_zero, hmore]
    · simp only [bind, Except.bind, List.drop_zero, hmore, pure, Except.pure, List.nil_append,
        Nat.zero_add, Nat.add_comm]

/-- The inline token of a heading or paragraph is the next one, whatever comes after it. -/
lemma runningText_append (h : rest ≠ []) : runningText (rest ++ us) = runningText rest := by
  cases rest with
  | nil => exact absurd rfl h
  | cons u rest => rfl

/-- A heading or a paragraph needs no token but the next one. -/
lemma local_running (level : Except BuildError Int) (wrap : Int → List Inline → Block) :
    Local 0 (fun rest => do
      let l ← level
      let inner ← runningText rest
      return ([wrap l inner], 2)) rest us := by
  intro hwithin
  cases level with
  | error e => rfl
  | ok l =>
    have hne : rest ≠ [] := by
      rintro rfl
      exact hwithin rfl
    simp only [runningText_append hne]

/-- A skip that finds its closer ends there. -/
lemma countBefore_append {kind : Kind} {ts : List Token} (h : countBefore kind ts < ts.length) :
    countBefore kind (ts ++ us) = countBefore kind ts := by
  induction ts with
  | nil => exact absurd h (Nat.not_lt_zero _)
  | cons t ts ih =>
    rw [List.cons_append, countBefore, countBefore]
    by_cases ht : t.kind = kind
    · rw [if_pos ht, if_pos ht]
    · rw [countBefore, if_neg ht, List.length_cons] at h
      rw [if_neg ht, if_neg ht, ih (by omega)]

lemma local_skip (kind : Kind) :
    Local 0 (fun rest => .ok (([] : List Block), countBefore kind rest + 1)) rest us := by
  intro hwithin
  simp only [countBefore_append hwithin]

end Loops

/-- No part of the builder looks at the tokens behind a stream that it gives a result within. -/
lemma local_blocks (us : List Token) :
    (∀ stop ts, Local 1 (blocks stop) ts us) ∧ (∀ t rest, Local 0 (blocksAt t) rest us) ∧
      ∀ ts, Local 1 listItems ts us := by
  refine blocks.mutual_induct (fun stop ts => Local 1 (blocks stop) ts us)
    (fun t rest => Local 0 (blocksAt t) rest us) (fun ts => Local 1 listItems ts us)
    ?streamEnd ?closer ?step ?headingOpen ?paragraphOpen ?bulletListOpen ?orderedListOpen
    ?blockquoteOpen ?fence ?codeBlock ?htmlBlock ?thematicBreak ?mathBlock ?mathBlockNumbered
    ?footnoteBlockOpen ?footnoteReferenceOpen ?other ?noItem ?listCloser ?item ?stray
  case streamEnd =>
    intro stop hwithin
    rw [blocks_nil] at hwithin
    exact absurd hwithin (by simp [Within])
  case closer =>
    intro stop t rest hstop _
    rw [List.cons_append, blocks_of_mem hstop, blocks_of_mem hstop]
  case step =>
    intro stop t rest hstop hat hloop hwithin
    rw [blocks_of_notMem hstop, within_cons_iff] at hwithin
    rw [List.cons_append, blocks_of_notMem hstop, blocks_of_notMem hstop]
    exact hat.follow (blocks_nil stop) (fun _ used _ => hloop used) hwithin
  case headingOpen =>
    intro t rest hkind
    unfold Local
    simp only [blocksAt, hkind]
    exact local_running _ (.heading <| .number ·)
  case paragraphOpen =>
    intro t rest hkind
    unfold Local
    simp only [blocksAt, hkind]
    exact local_running (.ok 0) fun _ => .paragraph
  case bulletListOpen =>
    intro t rest hkind ih
    rw [blocksAt_bulletList hkind]
    exact ih.enclose _
  case blockquoteOpen =>
    intro t rest hkind ih
    rw [blocksAt_blockQuote hkind]
    exact ih.enclose _
  case footnoteBlockOpen | footnoteReferenceOpen =>
    intro t rest hkind
    unfold Local
    simp only [blocksAt, hkind]
    exact local_skip _
  case orderedListOpen | fence | codeBlock | htmlBlock | thematicBreak | mathBlock
      | mathBlockNumbered =>
    intro t rest hkind _
    simp only [blocksAt, hkind]
  case other =>
    intro t rest _ _ _ _ _ _ _ _ _ _ _ _ _ _
    unfold blocksAt
    simp_all
  case noItem =>
    intro hwithin
    rw [listItems_nil] at hwithin
    exact absurd hwithin (by simp [Within])
  case listCloser =>
    intro t rest hkind _
    rw [List.cons_append, listItems_closer hkind, listItems_closer hkind]
  case item =>
    intro t rest hkind hitem hloop hwithin
    rw [listItems_item hkind, within_cons_iff] at hwithin
    rw [List.cons_append, listItems_item hkind, listItems_item hkind]
    refine (hitem.enclose id).follow listItems_nil (fun found used hused => ?_) hwithin
    obtain ⟨n, rfl⟩ := exists_of_enclose_eq_ok hused
    exact hloop n
  case stray =>
    intro t rest hcloser hitem hloop hwithin
    rw [listItems_stray hcloser hitem, within_cons_iff] at hwithin
    rw [List.cons_append, listItems_stray hcloser hitem, listItems_stray hcloser hitem]
    have hnothing : Local 0 (fun _ => .ok (([] : List (List Block)), 0)) rest us := fun _ => rfl
    refine hnothing.follow listItems_nil (fun found used hused => ?_) hwithin
    obtain ⟨-, rfl⟩ := Prod.mk.inj (Except.ok.inj hused)
    exact hloop

/-- A loop that ends exactly at the end of a stream goes on with the tokens that follow. -/
lemma blocks_append_of_length {stop : List Kind} (us : List Token) :
    (ts : List Token) → {bs : List Block} → blocks stop ts = .ok (bs, ts.length) →
      blocks stop (ts ++ us) = after [] bs ts.length (blocks stop us)
  | [], bs, h => by
    rw [blocks_nil] at h
    obtain ⟨rfl, -⟩ := Prod.mk.inj (Except.ok.inj h)
    exact (after_nil _).symm
  | t :: rest, bs, h => by
    by_cases hstop : t.kind ∈ stop
    · -- the loop would have to end in front of its first token
      rw [blocks_of_mem hstop] at h
      exact absurd (Prod.mk.inj (Except.ok.inj h)).2 (by simp)
    · rw [List.cons_append, blocks_of_notMem hstop]
      rw [blocks_of_notMem hstop] at h
      rcases hat : blocksAt t rest with e | ⟨found, used⟩
      · rw [follow_of_error hat] at h
        exact absurd h (by simp)
      · rw [follow_of_ok hat] at h
        rcases hmore : blocks stop (rest.drop used) with e | ⟨more, n⟩
        · rw [hmore] at h
          exact absurd h (by simp [after, settle, bind, Except.bind])
        · rw [hmore] at h
          obtain ⟨rfl, hlength⟩ := Prod.mk.inj (Except.ok.inj h)
          rw [List.length_cons] at hlength
          have hused : used ≤ rest.length := by omega
          have hrest : n = (rest.drop used).length := by
            rw [List.length_drop]
            omega
          have hlonger : blocksAt t (rest ++ us) = .ok (found, used) := by
            rw [(local_blocks us).2.1 t rest (by rw [hat]; exact hused), hat]
          rw [follow_of_ok hlonger, List.drop_append_of_le_length hused,
            blocks_append_of_length us (rest.drop used) (by rw [hmore, hrest]), after_after,
            List.length_cons, ← hlength, hrest]
          rfl
termination_by ts => ts.length
decreasing_by
  rw [List.length_drop, List.length_cons]
  omega

lemma document_eq_error_iff {ts : List Token} {e : BuildError} :
    document ts = .error e ↔ blocks [] ts = .error e := by
  rw [document]
  cases blocks [] ts <;> simp [bind, Except.bind, pure, Except.pure]

/-- **Streams one after the other.**  When the loop over a stream ends exactly at the end of the
stream, the document of two streams holds its blocks and then those of the second stream, and an
error of the second stream is the error of both.  A stream that has an error of its own gives this
error whatever follows, unless the error is that a token is missing. -/
theorem document_append (ts us : List Token) :
    (∀ bs, blocks [] ts = .ok (bs, ts.length) →
      document (ts ++ us) = (document us).map fun d => ⟨bs ++ d.blocks⟩) ∧
    ∀ e, document ts = .error e → e ≠ .missingToken → document (ts ++ us) = .error e := by
  constructor
  · intro bs h
    rw [document, document, blocks_append_of_length us ts h]
    cases blocks [] us <;> rfl
  · intro e h hmissing
    rw [document_eq_error_iff] at h ⊢
    rw [(local_blocks us).1 [] ts (by rw [h]; exact hmissing), h]

/-- A list with a stray closer in it and another one behind it is complete, so a quote that is never
closed comes after its blocks, and a bad heading tag is the error of both streams.  An ordered list
in a quote is rejected before anything shows that the quote is not closed. -/
theorem document_append_strays :
    let running : Token := { kind := .inline, children := [{ kind := .text, content := "a" }] }
    let ts : List Token :=
      [{ kind := .bulletListOpen }, { kind := .blockquoteClose }, { kind := .listItemOpen },
        { kind := .paragraphOpen }, running, { kind := .paragraphClose },
        { kind := .listItemClose }, { kind := .bulletListClose }, { kind := .listItemClose }]
    let quote : List Token := [{ kind := .blockquoteOpen }, { kind := .thematicBreak }]
    let heading : List Token := [{ kind := .headingOpen, tag := "hx" }]
    let numbered : List Token := [{ kind := .blockquoteOpen }, { kind := .orderedListOpen }]
    document (ts ++ quote) =
        .ok ⟨[.bulletList [[.paragraph [.text "a"]]], .blockQuote [.thematicBreak]]⟩ ∧
      document (ts ++ heading) = .error (.badLevel 'x') ∧
      document (numbered ++ heading) = .error (.rejected ⟨"OrderedList", none⟩) := by
  intro running ts quote heading numbered
  have hts : blocks [] ts = .ok ([.bulletList [[.paragraph [.text "a"]]]], ts.length) := by
    simp [ts, running, blocks, blocksAt, listItems, runningText, inlines, inlinesAt, bind,
      Except.bind, pure, Except.pure]
    rfl
  have hquote : document quote = .ok ⟨[.blockQuote [.thematicBreak]]⟩ := by
    simp [quote, document, blocks, blocksAt, bind, Except.bind, pure, Except.pure]
  have hlevel : headingLevel "hx" = .error (.badLevel 'x') := by decide
  have hheading : document heading = .error (.badLevel 'x') := by
    simp [heading, document, blocks, blocksAt, hlevel, bind, Except.bind]
  have hnumbered : document numbered = .error (.rejected ⟨"OrderedList", none⟩) := by
    simp [numbered, document, blocks, blocksAt, bind, Except.bind]
  refine ⟨?_, ?_, (document_append numbered heading).2 _ hnumbered (by simp)⟩
  · rw [(document_append ts quote).1 _ hts, hquote]
    rfl
  · rw [(document_append ts heading).1 _ hts, hheading]
    rfl

end ElementCode.Markup
