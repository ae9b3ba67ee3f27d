import ElementCode.Proofs.Concatenation
import ElementCode.Proofs.ReadingOrder

/-!
# The loops over tokens make progress

`blocks` and `inlines` take what is left of a stream and count the tokens that they step over.  A
*walk* is the same loop with an index into the whole stream: it looks a token up, goes on from the
index that a step returns, and starts an inner loop as a call of its own.  The index may leave the
stream, and a step may jump over a closer, so nothing in the text of a walk says that it ends.  It
therefore gets a number of rounds, and its calls are recorded, each with the call that made it.

With enough rounds a walk ends with the result of the loop, counted from its index, and every call
it has made *descends* (`completes_blocks`, `completes_inlines`): on the same stream the inner call
starts at a strictly larger index, and otherwise it starts at the first of a token's children, which
are a strictly smaller tree.  What the loops return and what they raise is then read off their
results: they end at a token that stops them or beyond the stream, and on a stream where headings
and paragraphs are supplied with what they need they raise nothing but rejections
(`loops_progress`).
-/

namespace ElementCode.Markup

/-! ## Calls -/

/-- A call of one of the loops: its stream, the index where it starts and what stops it. -/
inductive Call where
  | blocks (ts : List Token) (start : Nat) (stop : List Kind)
  | inlines (ts : List Token) (start : Nat) (stop : Option Kind)

/-- The second call lies below the first one.  On the same stream it starts at a strictly larger
index.  Otherwise it starts at the first child of a token of the stream; the token is an image, or
it follows a token that the first call has come to. -/
inductive Descends : Call → Call → Prop
  | blocks {ts : List Token} {i j : Nat} {stop stop' : List Kind} (later : i < j) :
      Descends (.blocks ts i stop) (.blocks ts j stop')
  | inlines {ts : List Token} {i j : Nat} {stop stop' : Option Kind} (later : i < j) :
      Descends (.inlines ts i stop) (.inlines ts j stop')
  | runningText {ts : List Token} {i j : Nat} {stop : List Kind} {t : Token} (later : i < j)
      (here : ts[j]? = some t) (smaller : sizeOf t.children < sizeOf ts) :
      Descends (.blocks ts i stop) (.inlines t.children 0 none)
  | image {ts : List Token} {i j : Nat} {stop : Option Kind} {t : Token} (later : i ≤ j)
      (here : ts[j]? = some t) (kind : t.kind = .image) (smaller : sizeOf t.children < sizeOf ts) :
      Descends (.inlines ts i stop) (.inlines t.children 0 none)

/-- Why a walk has no value: its rounds are used up, or the loop raises an error. -/
inductive Halt where
  | exhausted
  | raised (e : BuildError)

/-- How a walk has ended, and the calls that it has made, each after the call that made it. -/
structure Walk (α : Type) where
  result : Except Halt α
  calls : List (Call × Call)

namespace Walk

variable {α : Type}

instance : Monad Walk where
  pure a := ⟨.ok a, []⟩
  bind x f :=
    match x.result with
    | .ok a => ⟨(f a).result, x.calls ++ (f a).calls⟩
    | .error halt => ⟨.error halt, x.calls⟩

/-- A walk without rounds. -/
def exhausted : Walk α := ⟨.error .exhausted, []⟩

/-- A walk that makes no call. -/
def ofExcept (r : Except BuildError α) : Walk α := ⟨r.mapError .raised, []⟩

/-- A walk as a call of its own. -/
def invoke (caller callee : Call) (x : Walk α) : Walk α :=
  { x with calls := (caller, callee) :: x.calls }

end Walk

/-! ## The loops with an index -/

mutual

/-- The walk of `inlines`, at the index `i` of a call that has started at `start`. -/
def walkInlines : Nat → List Token → Option Kind → Nat → Nat → Walk (List Inline × Nat)
  | 0, _, _, _, _ => .exhausted
  | rounds + 1, ts, stop, start, i =>
    match ts[i]? with
    | none => pure ([], i)
    | some t =>
      if some t.kind = stop then pure ([], i)
      else do
        let (found, j) ← walkInlinesAt rounds (.inlines ts start stop) ts t i
        let (more, k) ← walkInlines rounds ts stop start j
        return (found ++ more, k)

/-- What `t`, the token at the index `i`, begins, and the index where the loop goes on. -/
def walkInlinesAt : Nat → Call → List Token → Token → Nat → Walk (List Inline × Nat)
  | 0, _, _, _, _ => .exhausted
  | rounds + 1, caller, ts, t, i =>
    match t.kind with
    | .text | .textSpecial => pure (textInlines t.content, i + 1)
    | .softbreak => pure ([.text " "], i + 1)
    | .hardbreak => pure ([.linebreak], i + 1)
    | .emOpen => do
      let (inner, j) ← (walkInlines rounds ts (some .emClose) (i + 1) (i + 1)).invoke caller
        (.inlines ts (i + 1) (some .emClose))
      return ([.emphasis inner], j + 1)
    | .strongOpen => do
      let (inner, j) ← (walkInlines rounds ts (some .strongClose) (i + 1) (i + 1)).invoke caller
        (.inlines ts (i + 1) (some .strongClose))
      return ([.strong inner], j + 1)
    | .codeInline => pure ([.code t.content], i + 1)
    | .linkOpen => do
      let (inner, j) ← (walkInlines rounds ts (some .linkClose) (i + 1) (i + 1)).invoke caller
        (.inlines ts (i + 1) (some .linkClose))
      return ([.link inner (.url (t.attrValue "href").text)], j + 1)
    | .image => do
      let (alt, _) ← (walkInlines rounds t.children none 0 0).invoke caller
        (.inlines t.children 0 none)
      return ([.image alt (.url (t.attrValue "src").text)], i + 1)
    | .mathInline => pure ([.mathInline t.content], i + 1)
    | .mathInlineDouble => pure ([.mathDisplay t.content], i + 1)
    | .footnoteRef => pure ([.footnote t.footnoteName.text], i + 1)
    | .htmlInline => .ofExcept (.error (.rejected ⟨"RawInline", some t.content⟩))
    | _ => pure ([], i + 1)

end

/-- The walk of `runningText`, on the token at the index `i`. -/
def walkText (rounds : Nat) (caller : Call) (ts : List Token) (i : Nat) : Walk (List Inline) :=
  match ts[i]? with
  | none => .ofExcept (.error .missingToken)
  | some t => do
    let (inner, _) ← (walkInlines rounds t.children none 0 0).invoke caller
      (.inlines t.children 0 none)
    return inner

/-- The index of the first token of a kind, from the index `i` on. -/
def walkTo (kind : Kind) (ts : List Token) : Nat → Nat → Walk Nat
  | 0, _ => .exhausted
  | rounds + 1, i =>
    match ts[i]? with
    | none => pure i
    | some t => if t.kind = kind then pure i else walkTo kind ts rounds (i + 1)

mutual

/-- The walk of `blocks`, at the index `i` of a call that has started at `start`. -/
def walkBlocks : Nat → List Token → List Kind → Nat → Nat → Walk (List Block × Nat)
  | 0, _, _, _, _ => .exhausted
  | rounds + 1, ts, stop, start, i =>
    match ts[i]? with
    | none => pure ([], i)
    | some t =>
      if t.kind ∈ stop then pure ([], i)
      else do
        let (found, j) ← walkBlocksAt rounds (.blocks ts start stop) ts t i
        let (more, k) ← walkBlocks rounds ts stop start j
        return (found ++ more, k)

/-- What `t`, the token at the index `i`, begins, and the index where the loop goes on. -/
def walkBlocksAt : Nat → Call → List Token → Token → Nat → Walk (List Block × Nat)
  | 0, _, _, _, _ => .exhausted
  | rounds + 1, caller, ts, t, i =>
    match t.kind with
    | .headingOpen => do
      let level ← .ofExcept (headingLevel t.tag)
      let inner ← walkText rounds caller ts (i + 1)
      return ([.heading (.number level) inner], i + 3)
    | .paragraphOpen => do
      let inner ← walkText rounds caller ts (i + 1)
      return ([.paragraph inner], i + 3)
    | .bulletListOpen => do
      let (items, j) ← walkItems rounds caller ts (i + 1)
      return ([.bulletList items], j + 1)
    | .orderedListOpen => .ofExcept (.error (.rejected ⟨"OrderedList", none⟩))
    | .blockquoteOpen => do
      let (quoted, j) ← (walkBlocks rounds ts [.blockquoteClose] (i + 1) (i + 1)).invoke caller
        (.blocks ts (i + 1) [.blockquoteClose])
      return ([.blockQuote quoted], j + 1)
    | .fence | .codeBlock => pure ([.codeBlock (firstWord t.info) t.content], i + 1)
    | .htmlBlock => pure ([.rawBlock t.content], i + 1)
    | .thematicBreak => pure ([.thematicBreak], i + 1)
    | .mathBlock | .mathBlockNumbered =>
      pure ([.paragraph [.mathDisplay (Text.strip t.content)]], i + 1)
    | .footnoteBlockOpen => do
      let j ← walkTo .footnoteBlockClose ts rounds (i + 1)
      return ([], j + 1)
    | .footnoteReferenceOpen => do
      let j ← walkTo .footnoteReferenceClose ts rounds (i + 1)
      return ([], j + 1)
    | _ => pure ([], i + 1)

/-- The walk of `listItems`, at the index `i`. -/
def walkItems : Nat → Call → List Token → Nat → Walk (List (List Block) × Nat)
  | 0, _, _, _ => .exhausted
  | rounds + 1, caller, ts, i =>
    match ts[i]? with
    | none => pure ([], i)
    | some t =>
      match t.kind with
      | .bulletListClose => pure ([], i)
      | .listItemOpen => do
        let (item, j) ← (walkBlocks rounds ts [.listItemClose] (i + 1) (i + 1)).invoke caller
          (.blocks ts (i + 1) [.listItemClose])
        let (more, k) ← walkItems rounds caller ts (j + 1)
        return (item :: more, k)
      | _ => walkItems rounds caller ts (i + 1)

end

/-! ## Walks that complete -/

section Completes

variable {α β : Type}

/-- With enough rounds the walk ends with the result `r`, always after the same calls, and each of
these descends. -/
def Completes (walk : Nat → Walk α) (r : Except BuildError α) : Prop :=
  ∃ calls, (∃ bound, ∀ rounds, bound ≤ rounds → walk rounds = ⟨r.mapError .raised, calls⟩) ∧
    ∀ c ∈ calls, Descends c.1 c.2

/-- A count of tokens as an index, counted from the index `i`. -/
def shift (i : Nat) (p : α × Nat) : α × Nat := (p.1, i + p.2)

variable {walk x : Nat → Walk α} {f : Nat → α → Walk β} {r : Except BuildError β} {a : α}

lemma completes_ofExcept (r : Except BuildError α) : Completes (fun _ => .ofExcept r) r :=
  ⟨[], ⟨0, fun _ _ => rfl⟩, by simp⟩

lemma completes_pure (a : α) : Completes (fun _ => pure a) (.ok a) := completes_ofExcept (.ok a)

/-- A walk that goes over to `body` in its first round completes as `body` does. -/
lemma Completes.succ {body : Nat → Walk α} {r : Except BuildError α} (h : Completes body r)
    (hbody : ∀ rounds, walk (rounds + 1) = body rounds) : Completes walk r := by
  obtain ⟨calls, ⟨bound, hends⟩, hcalls⟩ := h
  refine ⟨calls, ⟨bound + 1, fun rounds hrounds => ?_⟩, hcalls⟩
  obtain ⟨n, rfl⟩ : ∃ n, rounds = n + 1 := ⟨rounds - 1, by omega⟩
  rw [hbody, hends n (by omega)]

lemma Completes.bind_error {e : BuildError} (hx : Completes x (.error e)) :
    Completes (fun n => x n >>= f n) (.error e) := by
  obtain ⟨calls, ⟨bound, hends⟩, hcalls⟩ := hx
  refine ⟨calls, ⟨bound, fun rounds hrounds => ?_⟩, hcalls⟩
  show x rounds >>= f rounds = _
  rw [hends rounds hrounds]
  rfl

lemma Completes.bind_ok (hx : Completes x (.ok a)) (hf : Completes (fun n => f n a) r) :
    Completes (fun n => x n >>= f n) r := by
  obtain ⟨calls, ⟨bound, hends⟩, hcalls⟩ := hx
  obtain ⟨more, ⟨bound', hends'⟩, hmore⟩ := hf
  refine ⟨calls ++ more, ⟨max bound bound', fun rounds hrounds => ?_⟩, fun c hc => ?_⟩
  · have hfirst := hends rounds (by omega)
    have hthen : f rounds a = _ := hends' rounds (by omega)
    show x rounds >>= f rounds = _
    rw [hfirst]
    show (⟨(f rounds a).result, calls ++ (f rounds a).calls⟩ : Walk β) = _
    rw [hthen]
  · rcases List.mem_append.1 hc with hc | hc
    · exact hcalls c hc
    · exact hmore c hc

/-- The walk of a computation in two parts.  The results of both are counted from an index. -/
lemma Completes.bind {γ δ : Type} {r : Except BuildError γ} {g : γ → Except BuildError δ}
    {h : γ → α} {s : δ → β} (hx : Completes x (r.map h))
    (hf : ∀ c, Completes (fun n => f n (h c)) ((g c).map s)) :
    Completes (fun n => x n >>= f n) ((r >>= g).map s) := by
  rcases r with e | c
  · exact hx.bind_error
  · exact hx.bind_ok (hf c)

lemma Completes.invoke {r : Except BuildError α} {caller callee : Call} (h : Completes walk r)
    (hcall : Descends caller callee) :
    Completes (fun n => (walk n).invoke caller callee) r := by
  obtain ⟨calls, ⟨bound, hends⟩, hcalls⟩ := h
  refine ⟨(caller, callee) :: calls, ⟨bound, fun rounds hrounds => ?_⟩, fun c hc => ?_⟩
  · show (walk rounds).invoke caller callee = _
    rw [hends rounds hrounds]
    rfl
  · rcases List.mem_cons.1 hc with rfl | hc
    · exact hcall
    · exact hcalls c hc

/-- A walk behind elements that are found already, `used` tokens further on. -/
lemma Completes.after {z : Nat → Walk (List α × Nat)} {more : Except BuildError (List α × Nat)}
    {i j used : Nat} (found : List α) (hj : j = i + used)
    (h : Completes z (more.map (shift j))) :
    Completes (fun n => do
      let (rest, k) ← z n
      return (found ++ rest, k)) ((after [] found used more).map (shift i)) := by
  rcases more with e | ⟨rest, n⟩
  · exact h.bind_error
  · refine h.bind_ok ?_
    have hcount : j + n = i + (used + n) := by omega
    show Completes (fun _ => pure (found ++ rest, j + n)) _
    rw [hcount]
    exact completes_pure _

/-- A step and the loop after it complete when both of them do. -/
lemma Completes.follow {step loop : List Token → Except BuildError (List α × Nat)}
    {rest : List Token} {i : Nat} {y : Nat → Walk (List α × Nat)}
    {z : Nat → Nat → Walk (List α × Nat)}
    (hstep : Completes y ((step rest).map (shift (i + 1))))
    (hloop : ∀ used, Completes (fun n => z n (i + 1 + used))
      ((loop (rest.drop used)).map (shift (i + 1 + used)))) :
    Completes (fun n => do
      let (found, j) ← y n
      let (more, k) ← z n j
      return (found ++ more, k)) ((follow step loop rest).map (shift i)) := by
  refine hstep.bind ?_
  rintro ⟨found, used⟩
  exact (hloop used).after found (by omega)

/-- A construct with a closer completes when its inner loop does. -/
lemma Completes.enclose {inner : List Token → Except BuildError (α × Nat)} {rest : List Token}
    {i : Nat} {y : Nat → Walk (α × Nat)} (wrap : α → β)
    (h : Completes y ((inner rest).map (shift i))) :
    Completes (fun n => do
      let (b, j) ← y n
      return ([wrap b], j + 1)) ((enclose wrap inner rest).map (shift i)) := by
  refine h.bind ?_
  rintro ⟨b, n⟩
  exact completes_pure _

/-- A construct with a closer and the loop after it. -/
lemma Completes.followEnclosed {inner : List Token → Except BuildError (α × Nat)}
    {loop : List Token → Except BuildError (List β × Nat)} {rest : List Token} {i : Nat}
    {y : Nat → Walk (α × Nat)} {z : Nat → Nat → Walk (List β × Nat)} (wrap : α → β)
    (hinner : Completes y ((inner rest).map (shift (i + 1))))
    (hloop : ∀ m, Completes (fun n => z n (i + 1 + (m + 1)))
      ((loop (rest.drop (m + 1))).map (shift (i + 1 + (m + 1))))) :
    Completes (fun n => do
      let (b, j) ← y n
      let (more, k) ← z n (j + 1)
      return (wrap b :: more, k))
      ((Markup.follow (Markup.enclose wrap inner) loop rest).map (shift i)) := by
  have hassoc : Markup.follow (Markup.enclose wrap inner) loop rest = inner rest >>= fun p =>
      Markup.after [] [wrap p.1] (p.2 + 2) (loop (rest.drop (p.2 + 1))) := by
    rw [Markup.follow, Markup.enclose]
    rcases inner rest with e | p
    · rfl
    · rfl
  rw [hassoc]
  refine hinner.bind ?_
  rintro ⟨b, n⟩
  exact (hloop n).after [wrap b] (by omega)

end Completes

/-! ## The walks end as the loops do -/

section Walks

variable {ts rest : List Token} {t : Token} {i : Nat}

lemma getElem?_of_drop_nil (h : ts.drop i = []) : ts[i]? = none := by
  rw [← List.head?_drop, h, List.head?_nil]

lemma getElem?_of_drop_cons (h : ts.drop i = t :: rest) : ts[i]? = some t := by
  rw [← List.head?_drop, h, List.head?_cons]

lemma drop_add_of_drop_cons (h : ts.drop i = t :: rest) (n : Nat) :
    ts.drop (i + 1 + n) = rest.drop n := by
  rw [← List.drop_drop, ← List.drop_drop, h, List.drop_succ_cons, List.drop_zero]

lemma sizeOf_children_lt_of_getElem? (h : ts[i]? = some t) : sizeOf t.children < sizeOf ts :=
  lt_trans t.sizeOf_children_lt (List.sizeOf_lt_of_mem (List.mem_of_getElem? h))

/-- What is to show of a loop over inlines: on any stream, and at any index from where the tokens
`us` are left, its walk completes. -/
def InlinesComplete (stop : Option Kind) (us : List Token)
    (r : Except BuildError (List Inline × Nat)) : Prop :=
  ∀ ts start i, start ≤ i → ts.drop i = us →
    Completes (fun n => walkInlines n ts stop start i) (r.map (shift i))

/-- What is to show of its step: the walk goes on behind the tokens that the step takes. -/
def InlinesAtComplete (t : Token) (rest : List Token)
    (r : Except BuildError (List Inline × Nat)) : Prop :=
  ∀ ts start stop i, start ≤ i → ts.drop i = t :: rest →
    Completes (fun n => walkInlinesAt n (.inlines ts start stop) ts t i) (r.map (shift (i + 1)))

/-- A token by itself. -/
lemma inlinesAtComplete_leaf {r : Except BuildError (List Inline × Nat)}
    (h : ∀ n caller ts i, walkInlinesAt (n + 1) caller ts t i = .ofExcept (r.map (shift (i + 1)))) :
    InlinesAtComplete t rest r := by
  intro ts start stop i _ _
  exact (completes_ofExcept _).succ fun n => h n _ _ _

/-- A span, from its opener on. -/
lemma inlinesAtComplete_span (closer : Kind) (wrap : List Inline → Inline)
    (hinner : InlinesComplete (some closer) rest (inlines (some closer) rest))
    (h : ∀ n caller ts i, walkInlinesAt (n + 1) caller ts t i = do
      let (inner, j) ← (walkInlines n ts (some closer) (i + 1) (i + 1)).invoke caller
        (.inlines ts (i + 1) (some closer))
      return ([wrap inner], j + 1)) :
    InlinesAtComplete t rest (enclose wrap (inlines (some closer)) rest) := by
  intro ts start stop i hstart hdrop
  have hnested := hinner ts (i + 1) (i + 1) le_rfl (drop_add_of_drop_cons hdrop 0)
  have hcall : Descends (.inlines ts start stop) (.inlines ts (i + 1) (some closer)) :=
    .inlines (by omega)
  exact ((hnested.invoke hcall).enclose wrap).succ fun n => h n _ _ _

lemma completes_inlines :
    (∀ stop us, InlinesComplete stop us (inlines stop us)) ∧
    ∀ t rest, InlinesAtComplete t rest (inlinesAt t rest) := by
  -- the induction follows the loop on what is left of the stream, the indices come in on the way
  refine inlines.mutual_induct_unfolding InlinesComplete InlinesAtComplete
    ?streamEnd ?closer ?step ?text ?textSpecial ?softbreak ?hardbreak ?emOpen ?strongOpen
    ?codeInline ?linkOpen ?image ?mathInline ?mathInlineDouble ?footnoteRef ?htmlInline ?other
  case streamEnd =>
    intro stop ts start i _ hdrop
    refine (completes_pure ([], i)).succ fun n => ?_
    rw [walkInlines, getElem?_of_drop_nil hdrop]
  case closer =>
    intro t rest ts start i _ hdrop
    refine (completes_pure ([], i)).succ fun n => ?_
    rw [walkInlines, getElem?_of_drop_cons hdrop]
    exact if_pos rfl
  case step =>
    intro stop t rest hstop hat hloop ts start i hstart hdrop
    have hstep := hat ts start stop i hstart hdrop
    have hmore : ∀ used, Completes (fun n => walkInlines n ts stop start (i + 1 + used))
        ((inlines stop (rest.drop used)).map (shift (i + 1 + used))) := fun used =>
      hloop used ts start (i + 1 + used) (by omega) (drop_add_of_drop_cons hdrop used)
    refine (hstep.follow hmore).succ fun n => ?_
    rw [walkInlines, getElem?_of_drop_cons hdrop]
    exact if_neg hstop
  case text | textSpecial | softbreak | hardbreak | codeInline | mathInline | mathInlineDouble
      | footnoteRef | htmlInline =>
    intro t rest hkind
    refine inlinesAtComplete_leaf fun n caller ts i => ?_
    simp only [walkInlinesAt, hkind]
    rfl
  case emOpen =>
    intro t rest hkind hinner
    refine inlinesAtComplete_span .emClose .emphasis hinner fun n caller ts i => ?_
    simp only [walkInlinesAt, hkind]
  case strongOpen =>
    intro t rest hkind hinner
    refine inlinesAtComplete_span .strongClose .strong hinner fun n caller ts i => ?_
    simp only [walkInlinesAt, hkind]
  case linkOpen =>
    intro t rest hkind hinner
    refine inlinesAtComplete_span .linkClose (.link · (.url (t.attrValue "href").text)) hinner
      fun n caller ts i => ?_
    simp only [walkInlinesAt, hkind]
  case image =>
    intro t rest hkind halt ts start stop i hstart hdrop
    have hhere := getElem?_of_drop_cons hdrop
    have hcall : Descends (.inlines ts start stop) (.inlines t.children 0 none) :=
      .image hstart hhere hkind (sizeOf_children_lt_of_getElem? hhere)
    have hnested := (halt t.children 0 0 le_rfl rfl).invoke hcall
    have hunfold : ∀ n, walkInlinesAt (n + 1) (.inlines ts start stop) ts t i = do
        let (alt, _) ← (walkInlines n t.children none 0 0).invoke (.inlines ts start stop)
          (.inlines t.children 0 none)
        return ([.image alt (.url (t.attrValue "src").text)], i + 1) := by
      intro n
      simp only [walkInlinesAt, hkind]
    refine (hnested.bind ?_).succ hunfold
    rintro ⟨alt, m⟩
    exact completes_pure _
  case other =>
    intro t rest _ _ _ _ _ _ _ _ _ _ _ _ _
    refine inlinesAtComplete_leaf fun n caller ts i => ?_
    have hunknown : walkInlinesAt (n + 1) caller ts t i = pure ([], i + 1) := by
      unfold walkInlinesAt
      simp_all
    exact hunknown

lemma completes_walkText {caller : Call} (hdrop : ts.drop i = rest)
    (hcall : ∀ u, ts[i]? = some u → Descends caller (.inlines u.children 0 none)) :
    Completes (fun n => walkText n caller ts i) (runningText rest) := by
  cases rest with
  | nil =>
    simp only [walkText, getElem?_of_drop_nil hdrop]
    exact completes_ofExcept _
  | cons u rest =>
    have hhere := getElem?_of_drop_cons hdrop
    have hnested := (completes_inlines.1 none u.children u.children 0 0 le_rfl rfl).invoke
      (hcall u hhere)
    simp only [walkText, hhere]
    rw [runningText]
    rcases hresult : inlines none u.children with e | ⟨inner, m⟩
    · rw [hresult] at hnested
      exact hnested.bind_error
    · rw [hresult] at hnested
      exact hnested.bind_ok (completes_pure _)

lemma completes_walkTo (kind : Kind) (us : List Token) :
    ∀ i, ts.drop i = us →
      Completes (fun n => walkTo kind ts n i) (.ok (i + countBefore kind us)) := by
  induction us with
  | nil =>
    intro i hdrop
    refine (completes_pure i).succ fun n => ?_
    rw [walkTo, getElem?_of_drop_nil hdrop]
  | cons t rest ih =>
    intro i hdrop
    rw [countBefore]
    by_cases hkind : t.kind = kind
    · rw [if_pos hkind]
      refine (completes_pure i).succ fun n => ?_
      rw [walkTo, getElem?_of_drop_cons hdrop]
      exact if_pos hkind
    · have hcount : i + (countBefore kind rest + 1) = i + 1 + countBefore kind rest := by omega
      rw [if_neg hkind, hcount]
      refine (ih (i + 1) (drop_add_of_drop_cons hdrop 0)).succ fun n => ?_
      rw [walkTo, getElem?_of_drop_cons hdrop]
      exact if_neg hkind

/-- What is to show of a loop over blocks, as for inlines. -/
def BlocksComplete (ts : List Token) (stop : List Kind) (us : List Token) : Prop :=
  ∀ start i, start ≤ i → ts.drop i = us →
    Completes (fun n => walkBlocks n ts stop start i) ((blocks stop us).map (shift i))

/-- What is to show of its step. -/
def BlocksAtComplete (ts : List Token) (t : Token) (rest : List Token) : Prop :=
  ∀ start stop i, start ≤ i → ts.drop i = t :: rest →
    Completes (fun n => walkBlocksAt n (.blocks ts start stop) ts t i)
      ((blocksAt t rest).map (shift (i + 1)))

/-- What is to show of the loop over the items of a list, which is part of the call around it. -/
def ItemsComplete (ts us : List Token) : Prop :=
  ∀ start stop i, start ≤ i → ts.drop i = us →
    Completes (fun n => walkItems n (.blocks ts start stop) ts i) ((listItems us).map (shift i))

/-- A heading or a paragraph: an attempt at its level, and the running text in the next token. -/
lemma blocksAtComplete_running (level : Except BuildError Int) (wrap : Int → List Inline → Block)
    (hat : blocksAt t rest = do
      let l ← level
      let inner ← runningText rest
      return ([wrap l inner], 2))
    (h : ∀ n caller i, walkBlocksAt (n + 1) caller ts t i = do
      let l ← .ofExcept level
      let inner ← walkText n caller ts (i + 1)
      return ([wrap l inner], i + 3)) :
    BlocksAtComplete ts t rest := by
  intro start stop i hstart hdrop
  have htext : Completes (fun n => walkText n (.blocks ts start stop) ts (i + 1))
      (runningText rest) := by
    refine completes_walkText (drop_add_of_drop_cons hdrop 0) fun u hu => ?_
    exact .runningText (by omega) hu (sizeOf_children_lt_of_getElem? hu)
  rw [hat]
  rcases level with e | l
  · exact (completes_ofExcept _).bind_error.succ fun n => h n _ _
  · refine Completes.succ (Completes.bind_ok (completes_ofExcept _) ?_) fun n => h n _ _
    rcases hresult : runningText rest with e | inner
    · rw [hresult] at htext
      exact htext.bind_error
    · rw [hresult] at htext
      exact htext.bind_ok (completes_pure _)

/-- A footnote's definition, which is skipped up to its closer. -/
lemma blocksAtComplete_skip (closer : Kind)
    (hat : blocksAt t rest = .ok ([], countBefore closer rest + 1))
    (h : ∀ n caller i, walkBlocksAt (n + 1) caller ts t i = do
      let j ← walkTo closer ts n (i + 1)
      return ([], j + 1)) :
    BlocksAtComplete ts t rest := by
  intro start stop i _ hdrop
  have hskip := completes_walkTo closer rest (i + 1) (drop_add_of_drop_cons hdrop 0)
  rw [hat]
  refine (hskip.bind_ok ?_).succ fun n => h n _ _
  exact completes_pure _

/-- A token by itself. -/
lemma blocksAtComplete_leaf
    (h : ∀ n caller i,
      walkBlocksAt (n + 1) caller ts t i = .ofExcept ((blocksAt t rest).map (shift (i + 1)))) :
    BlocksAtComplete ts t rest := by
  intro start stop i _ _
  exact (completes_ofExcept _).succ fun n => h n _ _

lemma completes_blocks (ts : List Token) :
    (∀ stop us, BlocksComplete ts stop us) ∧ (∀ t rest, BlocksAtComplete ts t rest) ∧
    ∀ us, ItemsComplete ts us := by
  refine blocks.mutual_induct (BlocksComplete ts) (BlocksAtComplete ts) (ItemsComplete ts)
    ?streamEnd ?closer ?step ?headingOpen ?paragraphOpen ?bulletListOpen ?orderedListOpen
    ?blockquoteOpen ?fence ?codeBlock ?htmlBlock ?thematicBreak ?mathBlock ?mathBlockNumbered
    ?footnoteBlockOpen ?footnoteReferenceOpen ?other ?noItem ?listCloser ?item ?stray
  case streamEnd =>
    intro stop start i _ hdrop
    rw [blocks_nil]
    refine (completes_pure ([], i)).succ fun n => ?_
    rw [walkBlocks, getElem?_of_drop_nil hdrop]
  case closer =>
    intro stop t rest hstop start i _ hdrop
    rw [blocks_of_mem hstop]
    refine (completes_pure ([], i)).succ fun n => ?_
    rw [walkBlocks, getElem?_of_drop_cons hdrop]
    exact if_pos hstop
  case step =>
    intro stop t rest hstop hat hloop start i hstart hdrop
    have hmore : ∀ used, Completes (fun n => walkBlocks n ts stop start (i + 1 + used))
        ((blocks stop (rest.drop used)).map (shift (i + 1 + used))) := fun used =>
      hloop used start (i + 1 + used) (by omega) (drop_add_of_drop_cons hdrop used)
    rw [blocks_of_notMem hstop]
    refine ((hat start stop i hstart hdrop).follow hmore).succ fun n => ?_
    rw [walkBlocks, getElem?_of_drop_cons hdrop]
    exact if_neg hstop
  case headingOpen =>
    intro t rest hkind
    refine blocksAtComplete_running (headingLevel t.tag) (.heading <| .number ·) ?_
      fun n caller i => ?_
    · simp only [blocksAt, hkind]
    · simp only [walkBlocksAt, hkind]
  case paragraphOpen =>
    intro t rest hkind
    refine blocksAtComplete_running (.ok 0) (fun _ => .paragraph) ?_ fun n caller i => ?_
    · simp only [blocksAt, hkind]
      rfl
    · simp only [walkBlocksAt, hkind]
      rfl
  case bulletListOpen =>
    intro t rest hkind ih start stop i hstart hdrop
    have hitems := ih start stop (i + 1) (by omega) (drop_add_of_drop_cons hdrop 0)
    rw [blocksAt_bulletList hkind]
    refine (hitems.enclose Block.bulletList).succ fun n => ?_
    simp only [walkBlocksAt, hkind]
  case blockquoteOpen =>
    intro t rest hkind ih start stop i hstart hdrop
    have hcall : Descends (.blocks ts start stop) (.blocks ts (i + 1) [.blockquoteClose]) :=
      .blocks (by omega)
    have hquoted := (ih (i + 1) (i + 1) le_rfl (drop_add_of_drop_cons hdrop 0)).invoke hcall
    rw [blocksAt_blockQuote hkind]
    refine (hquoted.enclose Block.blockQuote).succ fun n => ?_
    simp only [walkBlocksAt, hkind]
  case footnoteBlockOpen =>
    intro t rest hkind
    refine blocksAtComplete_skip .footnoteBlockClose ?_ fun n caller i => ?_
    · simp only [blocksAt, hkind]
    · simp only [walkBlocksAt, hkind]
  case footnoteReferenceOpen =>
    intro t rest hkind
    refine blocksAtComplete_skip .footnoteReferenceClose ?_ fun n caller i => ?_
    · simp only [blocksAt, hkind]
    · simp only [walkBlocksAt, hkind]
  case orderedListOpen | fence | codeBlock | htmlBlock | thematicBreak | mathBlock
      | mathBlockNumbered =>
    intro t rest hkind
    refine blocksAtComplete_leaf fun n caller i => ?_
    simp only [blocksAt, walkBlocksAt, hkind]
    rfl
  case other =>
    intro t rest _ _ _ _ _ _ _ _ _ _ _ _ _
    refine blocksAtComplete_leaf fun n caller i => ?_
    have hnothing : blocksAt t rest = .ok ([], 0) := by
      unfold blocksAt
      simp_all
    have hunknown : walkBlocksAt (n + 1) caller ts t i = pure ([], i + 1) := by
      unfold walkBlocksAt
      simp_all
    rw [hnothing, hunknown]
    rfl
  case noItem =>
    intro start stop i _ hdrop
    rw [listItems_nil]
    refine (completes_pure ([], i)).succ fun n => ?_
    rw [walkItems, getElem?_of_drop_nil hdrop]
  case listCloser =>
    intro t rest hkind start stop i _ hdrop
    rw [listItems_closer hkind]
    refine (completes_pure ([], i)).succ fun n => ?_
    simp only [walkItems, getElem?_of_drop_cons hdrop, hkind]
  case item =>
    intro t rest hkind hitem hloop start stop i hstart hdrop
    have hcall : Descends (.blocks ts start stop) (.blocks ts (i + 1) [.listItemClose]) :=
      .blocks (by omega)
    have hnested := (hitem (i + 1) (i + 1) le_rfl (drop_add_of_drop_cons hdrop 0)).invoke hcall
    have hmore : ∀ n, Completes
        (fun m => walkItems m (.blocks ts start stop) ts (i + 1 + (n + 1)))
        ((listItems (rest.drop (n + 1))).map (shift (i + 1 + (n + 1)))) := fun n =>
      hloop n start stop _ (by omega) (drop_add_of_drop_cons hdrop (n + 1))
    rw [listItems_item hkind]
    refine (hnested.followEnclosed id hmore).succ fun n => ?_
    simp only [walkItems, getElem?_of_drop_cons hdrop, hkind]
    rfl
  case stray =>
    intro t rest hclose hopen hloop start stop i hstart hdrop
    have hmore := hloop start stop (i + 1) (by omega) (drop_add_of_drop_cons hdrop 0)
    have hvalue : (listItems (t :: rest)).map (shift i) = (listItems rest).map (shift (i + 1)) := by
      rw [listItems_stray hclose hopen, follow_of_ok rfl, List.drop_zero]
      rcases listItems rest with e | ⟨more, m⟩
      · rfl
      · have hcount : i + (0 + 1 + m) = i + 1 + m := by omega
        show Except.ok (more, i + (0 + 1 + m)) = Except.ok (more, i + 1 + m)
        rw [hcount]
    rw [hvalue]
    refine hmore.succ fun n => ?_
    simp only [walkItems, getElem?_of_drop_cons hdrop]

end Walks

/-! ## Where the loops stop -/

/-- The loop over blocks ends in front of a token that stops it, or where there is none. -/
lemma blocks_stops {stop : List Kind} :
    (us : List Token) → {bs : List Block} → {n : Nat} → blocks stop us = .ok (bs, n) →
      ∀ u, us[n]? = some u → u.kind ∈ stop
  | [], bs, n, h, u, hu => by simp at hu
  | t :: rest, bs, n, h, u, hu => by
    by_cases hstop : t.kind ∈ stop
    · rw [blocks_of_mem hstop] at h
      obtain ⟨-, rfl⟩ := Prod.mk.inj (Except.ok.inj h)
      obtain rfl : t = u := by simpa using hu
      exact hstop
    · rw [blocks_of_notMem hstop] at h
      obtain ⟨⟨found, used⟩, hat, h⟩ := exists_of_bind_eq_ok h
      obtain ⟨⟨more, m⟩, hloop, h⟩ := exists_of_bind_eq_ok h
      obtain ⟨-, rfl⟩ := Prod.mk.inj (Except.ok.inj h)
      refine blocks_stops (rest.drop used) hloop u ?_
      have hindex : used + 1 + m = used + m + 1 := by omega
      rw [hindex, List.getElem?_cons_succ] at hu
      rw [List.getElem?_drop, hu]
termination_by us => us.length

/-- The loop over inlines ends in front of a token of the kind that stops it, or where there is
none. -/
lemma inlines_stops {stop : Option Kind} {us : List Token} {is : List Inline} {n : Nat}
    (h : inlines stop us = .ok (is, n)) (u : Token) (hu : us[n]? = some u) :
    some u.kind = stop := by
  have hreads := reads_inlines.1 stop us
  rw [h] at hreads
  refine hreads.2 u ?_
  rw [List.head?_drop, hu]
  rfl

/-! ## What the loops raise -/

section Supplied

/-- Every heading and every paragraph of the stream is opened in front of a token, and the tag of a
heading has a digit in second place. -/
structure Supplied (ts : List Token) : Prop where
  next : ∀ i t, ts[i]? = some t → t.kind = .headingOpen ∨ t.kind = .paragraphOpen →
    i + 1 < ts.length
  level : ∀ t ∈ ts, t.kind = .headingOpen → ∃ first c more, t.tag.toList = first :: c :: more ∧
    (Text.digitValue? c).isSome

variable {ts rest : List Token} {t : Token}

lemma Supplied.drop (h : Supplied ts) (n : Nat) : Supplied (ts.drop n) where
  next i t ht hkind := by
    rw [List.getElem?_drop] at ht
    have hnext := h.next (n + i) t ht hkind
    rw [List.length_drop]
    omega
  level t ht := h.level t (List.mem_of_mem_drop ht)

lemma Supplied.ne_nil (h : Supplied (t :: rest))
    (hkind : t.kind = .headingOpen ∨ t.kind = .paragraphOpen) : rest ≠ [] := by
  rintro rfl
  exact absurd (h.next 0 t rfl hkind) (by simp)

lemma Supplied.headingLevel (h : Supplied (t :: rest)) (hkind : t.kind = .headingOpen) :
    ∃ l, headingLevel t.tag = .ok l := by
  obtain ⟨first, c, more, htag, hdigit⟩ := h.level t List.mem_cons_self hkind
  obtain ⟨n, hn⟩ := Option.isSome_iff_exists.1 hdigit
  exact ⟨n, by simp only [Markup.headingLevel, htag, hn]⟩

variable {α β : Type}

/-- If it is an error, it is a rejection. -/
def OnlyRejects (r : Except BuildError α) : Prop :=
  ∀ e, r = .error e → ∃ rejection, e = .rejected rejection

lemma onlyRejects_ok (a : α) : OnlyRejects (.ok a) := fun _ h => nomatch h

lemma OnlyRejects.bind {x : Except BuildError α} {f : α → Except BuildError β}
    (hx : OnlyRejects x) (hf : ∀ a, OnlyRejects (f a)) : OnlyRejects (x >>= f) := by
  rcases x with e | a
  · intro e' h
    obtain rfl : e = e' := Except.error.inj h
    exact hx e rfl
  · exact hf a

lemma OnlyRejects.map {x : Except BuildError α} (hx : OnlyRejects x) (f : α → β) :
    OnlyRejects (x.map f) := by
  rcases x with e | a
  · intro e' h
    obtain rfl : e = e' := Except.error.inj h
    exact hx e rfl
  · exact onlyRejects_ok _

lemma onlyRejects_inlines (stop : Option Kind) (us : List Token) :
    OnlyRejects (inlines stop us) := by
  intro e he
  have hreads := reads_inlines.1 stop us
  rw [he] at hreads
  obtain ⟨html, -, rfl⟩ := hreads
  exact ⟨_, rfl⟩

lemma onlyRejects_runningText (h : rest ≠ []) : OnlyRejects (runningText rest) := by
  cases rest with
  | nil => exact absurd rfl h
  | cons u rest => exact (onlyRejects_inlines none u.children).bind fun _ => onlyRejects_ok _

/-- On a supplied stream no part of the loop over blocks raises anything but rejections. -/
lemma onlyRejects_blocks :
    (∀ stop us, Supplied us → OnlyRejects (blocks stop us)) ∧
    (∀ t rest, Supplied (t :: rest) → OnlyRejects (blocksAt t rest)) ∧
    ∀ us, Supplied us → OnlyRejects (listItems us) := by
  refine blocks.mutual_induct (fun stop us => Supplied us → OnlyRejects (blocks stop us))
    (fun t rest => Supplied (t :: rest) → OnlyRejects (blocksAt t rest))
    (fun us => Supplied us → OnlyRejects (listItems us))
    ?streamEnd ?closer ?step ?headingOpen ?paragraphOpen ?bulletListOpen ?orderedListOpen
    ?blockquoteOpen ?fence ?codeBlock ?htmlBlock ?thematicBreak ?mathBlock ?mathBlockNumbered
    ?footnoteBlockOpen ?footnoteReferenceOpen ?other ?noItem ?listCloser ?item ?stray
  case streamEnd =>
    intro stop _
    rw [blocks_nil]
    exact onlyRejects_ok _
  case closer =>
    intro stop t rest hstop _
    rw [blocks_of_mem hstop]
    exact onlyRejects_ok _
  case step =>
    intro stop t rest hstop hat hloop h
    rw [blocks_of_notMem hstop]
    refine (hat h).bind ?_
    rintro ⟨found, used⟩
    exact (hloop used (h.drop (used + 1))).bind fun _ => onlyRejects_ok _
  case headingOpen =>
    intro t rest hkind h
    obtain ⟨level, hlevel⟩ := h.headingLevel hkind
    simp only [blocksAt, hkind, hlevel]
    exact (onlyRejects_runningText (h.ne_nil (.inl hkind))).bind fun _ => onlyRejects_ok _
  case paragraphOpen =>
    intro t rest hkind h
    simp only [blocksAt, hkind]
    exact (onlyRejects_runningText (h.ne_nil (.inr hkind))).bind fun _ => onlyRejects_ok _
  case bulletListOpen =>
    intro t rest hkind hitems h
    rw [blocksAt_bulletList hkind]
    exact (hitems (h.drop 1)).bind fun _ => onlyRejects_ok _
  case blockquoteOpen =>
    intro t rest hkind hquoted h
    rw [blocksAt_blockQuote hkind]
    exact (hquoted (h.drop 1)).bind fun _ => onlyRejects_ok _
  case orderedListOpen =>
    intro t rest hkind _ e he
    simp only [blocksAt, hkind] at he
    exact ⟨_, (Except.error.inj he).symm⟩
  case fence | codeBlock | htmlBlock | thematicBreak | mathBlock | mathBlockNumbered
      | footnoteBlockOpen | footnoteReferenceOpen =>
    intro t rest hkind _
    simp only [blocksAt, hkind]
    exact onlyRejects_ok _
  case other =>
    intro t rest _ _ _ _ _ _ _ _ _ _ _ _ _ _
    unfold blocksAt
    simp_all [onlyRejects_ok]
  case noItem =>
    intro _
    rw [listItems_nil]
    exact onlyRejects_ok _
  case listCloser =>
    intro t rest hkind _
    rw [listItems_closer hkind]
    exact onlyRejects_ok _
  case item =>
    intro t rest hkind hitem hloop h
    rw [listItems, hkind]
    refine (hitem (h.drop 1)).bind ?_
    rintro ⟨item, n⟩
    exact (hloop n (h.drop (n + 2))).bind fun _ => onlyRejects_ok _
  case stray =>
    intro t rest hclose hopen hloop h
    rw [listItems_stray hclose hopen, follow_of_ok rfl, List.drop_zero]
    exact (hloop (h.drop 1)).bind fun _ => onlyRejects_ok _

end Supplied

/-! ## Progress -/

/-- A loop from the index `i` on makes progress: its walk completes with the result `r`; an index
that it returns is not before `i`, and is beyond the stream or that of a token which stops the loop;
and on a supplied stream it raises nothing but rejections. -/
structure MakesProgress {α : Type} (ts : List Token) (i : Nat) (Stops : Kind → Prop)
    (walk : Nat → Walk (α × Nat)) (r : Except BuildError (α × Nat)) : Prop where
  completes : Completes walk r
  stops : ∀ a j, r = .ok (a, j) →
    i ≤ j ∧ (ts.length ≤ j ∨ ∃ t, ts[j]? = some t ∧ Stops t.kind)
  rejects : Supplied ts → OnlyRejects r

/-- The index that a loop returns, from the count of the tokens it has stepped over. -/
lemma stops_of_count {α : Type} {ts : List Token} {i : Nat} {r : Except BuildError (α × Nat)}
    (Stops : Kind → Prop)
    (h : ∀ a n, r = .ok (a, n) → ∀ u, (ts.drop i)[n]? = some u → Stops u.kind) (a : α) (j : Nat)
    (hr : r.map (shift i) = .ok (a, j)) :
    i ≤ j ∧ (ts.length ≤ j ∨ ∃ t, ts[j]? = some t ∧ Stops t.kind) := by
  rcases r with e | ⟨b, n⟩
  · exact nomatch hr
  · obtain ⟨-, rfl⟩ := Prod.mk.inj (Except.ok.inj hr)
    refine ⟨Nat.le_add_right i n, ?_⟩
    rcases hhere : ts[i + n]? with _ | t
    · exact .inl (List.getElem?_eq_none_iff.1 hhere)
    · exact .inr ⟨t, rfl, h b n rfl t (by rw [List.getElem?_drop, hhere])⟩

/-- **The loops over tokens make progress.**  This holds for every stream, from every index on and
for whatever stops the loop: closers may be missing, nested loops may return indices beyond the
stream, and a heading or paragraph may jump over a closer. -/
theorem loops_progress (ts : List Token) (i : Nat) :
    (∀ stop, MakesProgress ts i (· ∈ stop) (fun rounds => walkBlocks rounds ts stop i i)
      ((blocks stop (ts.drop i)).map (shift i))) ∧
    ∀ stop, MakesProgress ts i (some · = stop) (fun rounds => walkInlines rounds ts stop i i)
      ((inlines stop (ts.drop i)).map (shift i)) := by
  refine ⟨fun stop => ?_, fun stop => ?_⟩
  · exact {
      completes := (completes_blocks ts).1 stop _ i i le_rfl rfl
      stops := stops_of_count _ fun _ _ h => blocks_stops _ h
      rejects := fun h => (onlyRejects_blocks.1 stop _ (h.drop i)).map _ }
  · exact {
      completes := completes_inlines.1 stop _ ts i i le_rfl rfl
      stops := stops_of_count (some · = stop) fun _ _ h => inlines_stops h
      rejects := fun _ => (onlyRejects_inlines stop _).map _ }

/-- A quotation whose closer is taken for the running text of a heading.  The heading jumps over it,
the loop inside the quotation ends beyond the stream, and the outer one two tokens beyond it. -/
theorem loops_progress_overrun :
    let ts : List Token := [{ kind := .blockquoteOpen }, { kind := .headingOpen, tag := "h٣" },
      { kind := .blockquoteClose }]
    Supplied ts ∧ Completes (fun rounds => walkBlocks rounds ts [] 0 0)
      (.ok ([.blockQuote [.heading (.number 3) []]], 5)) := by
  intro ts
  have hlevel : headingLevel "h٣" = .ok 3 := by decide
  have hblocks : (blocks [] (ts.drop 0)).map (shift 0) =
      .ok ([.blockQuote [.heading (.number 3) []]], 5) := by
    simp [ts, blocks, blocksAt, runningText, inlines, hlevel, shift, bind, Except.bind,
      pure, Except.pure, Except.map]
  refine ⟨⟨fun i t ht hkind => ?_, fun t ht hkind => ?_⟩, ?_⟩
  · have hi : i < 3 := (List.getElem?_eq_some_iff.1 ht).1
    have hlast : i ≠ 2 := by
      rintro rfl
      obtain rfl := Option.some.inj ht
      simp at hkind
    show i + 1 < 3
    omega
  · have htag : t = { kind := .headingOpen, tag := "h٣" } := by
      rcases List.mem_cons.1 ht with rfl | ht
      · simp at hkind
      · rcases List.mem_cons.1 ht with rfl | ht
        · rfl
        · obtain rfl := List.mem_singleton.1 ht
          simp at hkind
    exact ⟨'h', '٣', [], by rw [htag]; decide, by decide⟩
  · rw [← hblocks]
    exact ((loops_progress ts 0).1 []).completes

end ElementCode.Markup
