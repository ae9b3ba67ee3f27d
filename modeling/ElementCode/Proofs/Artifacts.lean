import ElementCode.Preview
import ElementCode.Proofs.BuiltDocuments

/-!
# What a preview holds

A preview has four artifacts: the code, the HTML, the dump of the document and the failure.  Two
stages can reject a construct, the builder and the mapping, and they leave different artifacts
behind: the dump survives only what the mapping rejects.

`Preview.artifacts_of_reading` says which artifacts there are.  The dump and the failure are chosen
there before the settings and the formatter, so nothing of these can change them; the settings only
decide whether the HTML and the dump are kept.  The formatter is a computation with arbitrary
effects.  It stands in one place, so it runs exactly once when there is code and never otherwise.
-/

namespace ElementCode

namespace Document

/-- What is not mapped has no code, for the same reason in every mode. -/
lemma printCode_of_toCode_error {d : Document} {e : MappingError} (h : d.toCode = .error e)
    (mode : PrefixMode) : d.printCode mode = .error e := by
  rw [printCode, h]
  rfl

end Document

namespace Preview

variable {m : Type → Type} [Monad m] [LawfulMonad m] (config : Config)
  (format : Option (String → m String)) (html : Option String) {reading : Reading} {d : Document}

/-- What the formatter makes of a text; without one the text stays as it is. -/
def formatted (format : Option (String → m String)) (text : String) : m String :=
  match format with
  | some f => f text
  | none => pure text

/-- A document that is mapped gives what the formatter makes of its code. -/
lemma ofDocumentM_of_toCode {cs : List Code} (h : d.toCode = .ok cs) : ∃ logs,
    ofDocumentM config format html d =
      (fun code => .ok (⟨code, html, if config.showDetails then some d.dump else none, none⟩,
        logs)) <$> formatted format (Code.printAll config.prefixMode cs) := by
  refine ⟨[⟨.debug, "Mapping " ++ toString d.blocks.length ++ " blocks"⟩], ?_⟩
  rw [ofDocumentM, Document.printCode_of_toCode h, ← bind_pure_comp]
  cases format <;> rfl

/-- A document that the mapping rejects gives no code and keeps its dump. -/
lemma ofDocumentM_of_rejected {r : Rejection} (h : d.toCode = .error (.rejected r)) : ∃ logs,
    ofDocumentM config format html d =
      (fun code => .ok (⟨code, html, if config.showDetails then some d.dump else none,
        some r.message⟩, logs)) <$> (pure "" : m String) := by
  refine ⟨[⟨.debug, "Mapping " ++ toString d.blocks.length ++ " blocks"⟩,
    ⟨.warning, "Code generation rejected: " ++ r.message⟩], ?_⟩
  rw [ofDocumentM, Document.printCode_of_toCode_error h, map_pure]

omit [LawfulMonad m] in
lemma ofReadingM_of_document (h : Markup.document reading.tokens = .ok d) :
    ofReadingM config format reading =
      ofDocumentM config format (if config.htmlPreview then some reading.html else none) d := by
  rw [ofReadingM, h]

/-- What the builder rejects gives neither code nor a dump. -/
lemma ofReadingM_of_rejected {r : Rejection}
    (h : Markup.document reading.tokens = .error (.rejected r)) : ∃ logs,
    ofReadingM config format reading =
      (fun code => .ok (⟨code, if config.htmlPreview then some reading.html else none, none,
        some r.message⟩, logs)) <$> (pure "" : m String) := by
  refine ⟨[⟨.warning, "Markup rejected: " ++ r.message⟩], ?_⟩
  rw [ofReadingM, h, map_pure]

/-! ## Formatters without effects -/

lemma ofReading_of_rejected (format : Option Formatter) {r : Rejection}
    (h : Markup.document reading.tokens = .error (.rejected r)) : ∃ logs,
    ofReading config format reading = .ok (⟨"", if config.htmlPreview then some reading.html
      else none, none, some r.message⟩, logs) := by
  obtain ⟨logs, hlogs⟩ := ofReadingM_of_rejected (m := Id) config format h
  exact ⟨logs, by rw [ofReading, hlogs]; rfl⟩

lemma ofReading_of_toCode_error (format : Option Formatter) {e : MappingError}
    (h : Markup.document reading.tokens = .ok d) (hcode : d.toCode = .error e) : ∃ logs,
    ofReading config format reading = .ok (⟨"", if config.htmlPreview then some reading.html
      else none, if config.showDetails then some d.dump else none, some e.message⟩, logs) := by
  obtain ⟨r, rfl⟩ := Document.exists_rejected_of_toCode_error h hcode
  obtain ⟨logs, hlogs⟩ := ofDocumentM_of_rejected (m := Id) config format
    (if config.htmlPreview then some reading.html else none) hcode
  exact ⟨logs, by rw [ofReading, ofReadingM_of_document (m := Id) config format h, hlogs]; rfl⟩

lemma ofReading_of_toCode {cs : List Code} (h : Markup.document reading.tokens = .ok d)
    (hcode : d.toCode = .ok cs) : ∃ logs,
    ofReading config none reading = .ok (⟨Code.printAll config.prefixMode cs,
      if config.htmlPreview then some reading.html else none,
      if config.showDetails then some d.dump else none, none⟩, logs) := by
  obtain ⟨logs, hlogs⟩ := ofDocumentM_of_toCode (m := Id) config none
    (if config.htmlPreview then some reading.html else none) hcode
  exact ⟨logs, by rw [ofReading, ofReadingM_of_document (m := Id) config none h, hlogs]; rfl⟩

lemma ofReading_of_error (format : Option Formatter) {e : Markup.BuildError}
    (h : Markup.document reading.tokens = .error e) (he : ∀ r, e ≠ .rejected r) :
    ofReading config format reading = .error (.build e) := by
  rw [ofReading, ofReadingM, h]
  cases e with
  | rejected r => exact absurd rfl (he r)
  | _ => rfl

/-! ## All formatters -/

/-- **The artifacts of a preview.**  Let the builder accept the tokens or reject a construct in
them.  What it rejects leaves no dump and its message as the failure.  A document leaves its dump,
and a failure exactly if the mapping rejects it.  Whatever the settings and the formatter, the
preview then has the HTML and the dump if they are asked for, that failure, and code if there is
none: what one call of the formatter makes of the document's code. -/
theorem artifacts_of_reading (reading : Reading)
    (hbuild : ∀ e, Markup.document reading.tokens = .error e → ∃ r, e = .rejected r) :
    ∃ dump failure : Option String,
      (∀ r, Markup.document reading.tokens = .error (.rejected r) →
        dump = none ∧ failure = some r.message) ∧
      (∀ d, Markup.document reading.tokens = .ok d →
        dump = some d.dump ∧
        (∀ e, d.toCode = .error e → failure = some e.message) ∧
        (∀ cs, d.toCode = .ok cs → failure = none)) ∧
      ∀ (m : Type → Type) [Monad m] [LawfulMonad m] (config : Config)
        (format : Option (String → m String)), ∃ (code : m String) (logs : List LogRecord),
        ofReadingM config format reading =
          (fun text => .ok (⟨text, if config.htmlPreview then some reading.html else none,
            if config.showDetails then dump else none, failure⟩, logs)) <$> code ∧
        (failure ≠ none → code = pure "") ∧
        (failure = none → ∃ d text, Markup.document reading.tokens = .ok d ∧
          d.printCode config.prefixMode = .ok text ∧ code = formatted format text) := by
  match hdoc : Markup.document reading.tokens with
  | .error e =>
    obtain ⟨r, rfl⟩ := hbuild e hdoc
    refine ⟨none, some r.message, by simp, by simp, fun m _ _ config format => ?_⟩
    obtain ⟨logs, hlogs⟩ := ofReadingM_of_rejected config format hdoc
    refine ⟨pure "", logs, ?_, by simp, by simp⟩
    rw [hlogs, ite_self]
  | .ok d =>
    match hcode : d.toCode with
    | .error e =>
      obtain ⟨r, rfl⟩ := Document.exists_rejected_of_toCode_error hdoc hcode
      refine ⟨some d.dump, some r.message, by simp, ?_, fun m _ _ config format => ?_⟩
      · simp [hcode, MappingError.message]
      obtain ⟨logs, hlogs⟩ := ofDocumentM_of_rejected config format
        (if config.htmlPreview then some reading.html else none) hcode
      refine ⟨pure "", logs, ?_, by simp, by simp⟩
      rw [ofReadingM_of_document config format hdoc, hlogs]
    | .ok cs =>
      refine ⟨some d.dump, none, by simp, by simp [hcode], fun m _ _ config format => ?_⟩
      obtain ⟨logs, hlogs⟩ := ofDocumentM_of_toCode config format
        (if config.htmlPreview then some reading.html else none) hcode
      refine ⟨formatted format (Code.printAll config.prefixMode cs), logs, ?_, by simp, fun _ =>
        ⟨d, _, rfl, Document.printCode_of_toCode hcode _, rfl⟩⟩
      rw [ofReadingM_of_document config format hdoc, hlogs]

/-- A line break, which the mapping would reject, before an ordered list, which the builder does:
the list is reported, and no document is dumped though dumps are asked for. -/
theorem artifacts_of_rejected_list :
    let line : Markup.Token := { kind := .inline, children := [{ kind := .hardbreak }] }
    let reading : Reading := ⟨[{ kind := .paragraphOpen }, line, { kind := .paragraphClose },
      { kind := .orderedListOpen }], "<p><br></p>"⟩
    Markup.document reading.tokens = .error (.rejected ⟨"OrderedList", none⟩) ∧
    ∀ format : Option (String → StateM Nat String), ∃ logs,
      ofReadingM { showDetails := true, htmlPreview := true } format reading =
        pure (.ok (⟨"", some "<p><br></p>", none, some "Unsupported construct: OrderedList"⟩,
          logs)) := by
  intro line reading
  have hdoc : Markup.document reading.tokens = .error (.rejected ⟨"OrderedList", none⟩) := by
    simp [reading, line, Markup.document, Markup.blocks, Markup.blocksAt, Markup.runningText,
      Markup.inlines, Markup.inlinesAt, bind, Except.bind, pure, Except.pure]
  refine ⟨hdoc, fun format => ?_⟩
  obtain ⟨dump, failure, hrejected, -, hpreview⟩ := artifacts_of_reading reading fun e he =>
    ⟨⟨"OrderedList", none⟩, by rw [hdoc] at he; exact (Except.error.inj he).symm⟩
  obtain ⟨rfl, rfl⟩ := hrejected _ hdoc
  obtain ⟨code, logs, hread, hcode, -⟩ :=
    hpreview (StateM Nat) { showDetails := true, htmlPreview := true } format
  exact ⟨logs, by rw [hread, hcode (by simp), map_pure]; rfl⟩

end Preview

end ElementCode
