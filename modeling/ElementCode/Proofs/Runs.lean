import ElementCode.Command
import ElementCode.Proofs.Artifacts
import ElementCode.Proofs.HomeDirectories
import ElementCode.Proofs.Writing

/-!
# What a run leaves

A run reads before it writes.  It ends before it has written anything (`Stops`), or it is ready to
write, with everything that it needs known from the tree that it started with (`Ready`); there is no
third case (`exists_stops_or_ready`).  In the first case the tree is as it was.  In the second the
run makes a sequence of writes, which depends on what has been rejected: the HTML alone, the HTML
and the dump, or both and the code.  What they leave is then a matter of file trees alone.

The parts of a run are taken one by one: `Gives` says how a part ends and which tree it leaves,
whatever has been logged, and `Writes` that it makes those writes one after the other.
-/

namespace ElementCode.Command

open FileTree

/-! ## Sessions -/

namespace Session

variable {α β : Type} {s : Session α} {f : α → Session β} {t t' t'' : FileTree}

lemma run_bind_of_ok {w w' : World} {a : α} (h : s.run.run w = (.ok a, w')) :
    (s >>= f).run.run w = (f a).run.run w' := by
  rw [ExceptT.run_bind, StateT.run_bind, h]
  rfl

lemma run_bind_of_error {w w' : World} {e : Ending} (h : s.run.run w = (.error e, w')) :
    (s >>= f).run.run w = (.error e, w') := by
  rw [ExceptT.run_bind, StateT.run_bind, h]
  rfl

lemma run_get_bind (f : World → Session α) (w : World) :
    (get >>= f).run.run w = (f w).run.run w := rfl

/-- On a tree, a part of a run ends so and leaves that tree, whatever has been logged before. -/
def Gives (s : Session α) (t : FileTree) (r : Except Ending α) (t' : FileTree) : Prop :=
  ∀ log, ∃ log', s.run.run ⟨t, log⟩ = (r, ⟨t', log'⟩)

lemma gives_pure (a : α) (t : FileTree) : (pure a : Session α).Gives t (.ok a) t :=
  fun log => ⟨log, rfl⟩

lemma gives_throw (e : Ending) (t : FileTree) : (throw e : Session α).Gives t (.error e) t :=
  fun log => ⟨log, rfl⟩

lemma Gives.bind {a : α} {r : Except Ending β} (hs : s.Gives t (.ok a) t')
    (hf : (f a).Gives t' r t'') : (s >>= f).Gives t r t'' := fun log => by
  obtain ⟨log', hlog'⟩ := hs log
  obtain ⟨log'', hlog''⟩ := hf log'
  exact ⟨log'', (run_bind_of_ok hlog').trans hlog''⟩

lemma Gives.bind_error {e : Ending} (hs : s.Gives t (.error e) t') :
    (s >>= f).Gives t (.error e) t' := fun log => by
  obtain ⟨log', hlog'⟩ := hs log
  exact ⟨log', run_bind_of_error hlog'⟩

lemma gives_get_bind {f : World → Session α} {r : Except Ending α}
    (hf : ∀ log, (f ⟨t, log⟩).Gives t r t') : (get >>= f).Gives t r t' :=
  fun log => hf log log

lemma gives_log (records : List LogRecord) (t : FileTree) : (log records).Gives t (.ok ()) t :=
  fun old => ⟨old ++ records, rfl⟩

lemma gives_say (level : LogLevel) (message : String) (t : FileTree) :
    (say level message).Gives t (.ok ()) t :=
  gives_log _ t

lemma gives_giveUp (message : String) (t : FileTree) :
    (giveUp message : Session α).Gives t (.error (.exit 1)) t :=
  (gives_say .error message t).bind (gives_throw _ t)

lemma gives_orFail {ε : Type} {g : ε → Failure} {r : Except ε α} {a : α} (h : r = .ok a)
    (t : FileTree) : (orFail g r).Gives t (.ok a) t :=
  h ▸ gives_pure a t

lemma gives_orFail_error {ε : Type} {g : ε → Failure} {r : Except ε α} {e : ε}
    (h : r = .error e) (t : FileTree) : (orFail g r).Gives t (.error (.failed (g e))) t :=
  h ▸ gives_throw _ t

/-- On a tree, a part of a run writes those texts and then ends so, unless a write fails. -/
def Writes (s : Session Unit) (ws : List (Path × String)) (r : Except Ending Unit)
    (t : FileTree) : Prop :=
  s.Gives t (match (writeAll ws t).1 with | .ok _ => r | .error e => .error (.failed (.file e)))
    (writeAll ws t).2

lemma Writes.append {s s' : Session Unit} {ws vs : List (Path × String)} {r : Except Ending Unit}
    (hs : s.Writes ws (.ok ()) t) (hs' : ∀ t, s'.Writes vs r t) :
    (s >>= fun _ => s').Writes (ws ++ vs) r t := by
  rw [Writes] at hs ⊢
  rw [writeAll_append]
  match writeAll ws t, hs with
  | (.ok _, t'), hs => exact hs.bind (hs' t')
  | (.error e, t'), hs => exact hs.bind_error

lemma writes_say (level : LogLevel) (message : String) (t : FileTree) :
    (say level message).Writes [] (.ok ()) t :=
  gives_say level message t

lemma writes_writeFile (p : Path) (text : String) (t : FileTree) :
    (writeFile p text).Writes [(p, text)] (.ok ()) t := by
  rw [Writes, writeAll_singleton]
  refine gives_get_bind fun _ => ?_
  have hset (t' : FileTree) : (modify fun w => { w with tree := t' } : Session Unit).Gives t
      (.ok ()) t' := fun log => ⟨log, rfl⟩
  match t.write p text with
  | (.ok _, t') => exact (hset t').bind (gives_orFail rfl t')
  | (.error e, t') => exact (hset t').bind (gives_orFail_error rfl t')

end Session

open Session

/-- How a run ends whose session ends so. -/
def endingOf : Except Ending Unit → Ending
  | .ok _ => .exit 0
  | .error e => e

/-! ## The writes of a run -/

/-- The file that an option names. -/
def named (name : Option String) : Option Path := (name.filter (!·.isEmpty)).map Path.ofString

/-- The write of something to the file that an option names. -/
def writesTo (name text : Option String) : List (Path × String) :=
  match named name, text with
  | some p, some text => [(p, text)]
  | _, _ => []

/-- The writes that a preview leads to. -/
def previewWrites (o : Options) (output : Path) (p : Preview) : List (Path × String) :=
  writesTo o.html p.html ++ (writesTo o.details p.details ++
    match p.failure with
    | some _ => []
    | none => [(output, if p.code.isEmpty then "" else p.code ++ "\n")])

/-- How a session ends when nothing else ends it: with status one if there is a failure. -/
def failureEnding : Option String → Except Ending Unit
  | some _ => .error (.exit 1)
  | none => .ok ()

lemma writes_writeTo (name : Option String) (what : String) (text : Option String)
    (t : FileTree) : (writeTo name what text).Writes (writesTo name text) (.ok ()) t := by
  unfold writeTo writesTo named
  cases name.filter (!·.isEmpty) with
  | none => exact gives_pure () t
  | some path =>
    cases text with
    | none => exact gives_pure () t
    | some text => exact (writes_say _ _ t).append fun t => writes_writeFile _ text t

lemma writes_writePreview (o : Options) (output : Path) (p : Preview) (t : FileTree) :
    (writePreview o output p).Writes (previewWrites o output p) (failureEnding p.failure) t := by
  rw [writePreview, previewWrites]
  refine (writes_writeTo o.html _ p.html t).append fun t => ?_
  refine (writes_writeTo o.details _ p.details t).append fun t => ?_
  cases p.failure with
  | some message => exact gives_giveUp message t
  | none => exact (writes_writeFile output _ t).append fun t => writes_say _ _ t

/-! ## The course of a run -/

/-- What a run knows before it takes the configuration: its options, the path of the input with a
home directory put in, at which there is something, and where to write the code. -/
structure Named (homes : Homes) (t : FileTree) (argv : List String) (o : Options)
    (input output : Path) : Prop where
  parse : Options.parse argv = .ok o
  expands : (Path.ofString o.input).Expands homes input
  lookUp : t.lookUp input = .ok ()
  has : t.has input
  outputFor : t.outputFor input o.output Path.defaultSuffix = .ok output

/-- What a run knows before it writes: in addition, its configuration, and the input as it has been
read.  All of it comes from the tree that the run starts with. -/
structure Ready (homes : Homes) (markup : MarkupReader) (t : FileTree) (argv : List String)
    (o : Options) (input output : Path) (config : Config) (reading : Reading) : Prop
    extends Named homes t argv o input output where
  settings : o.settings t = .ok config
  read : ∃ text, t.readText input = .ok text ∧ markup text = .ok reading

/-- How a run ends that ends before it writes. -/
inductive Stops (homes : Homes) (markup : MarkupReader) (t : FileTree) (argv : List String) :
    Ending → Prop
  | help : Options.parse argv = .error .help → Stops homes markup t argv (.exit 0)
  | usage {message : String} : Options.parse argv = .error (.wrong message) →
    Stops homes markup t argv (.exit 2)
  /-- The input is to be found from a home directory, and there is none. -/
  | home {o : Options} {e : HomeError} : Options.parse argv = .ok o →
    (Path.ofString o.input).Homeless homes e → Stops homes markup t argv (.failed (.home e))
  /-- The input cannot be looked up. -/
  | lookUp {o : Options} {input : Path} {e : FileError} : Options.parse argv = .ok o →
    (Path.ofString o.input).Expands homes input → t.lookUp input = .error e →
    Stops homes markup t argv (.failed (.file e))
  /-- The input does not exist. -/
  | missing {o : Options} {input : Path} : Options.parse argv = .ok o →
    (Path.ofString o.input).Expands homes input → t.lookUp input = .ok () →
    ¬ t.has input → Stops homes markup t argv (.failed (.noInput input.text))
  /-- The output has no path. -/
  | output {o : Options} {input : Path} {e : OutputError} : Options.parse argv = .ok o →
    (Path.ofString o.input).Expands homes input → t.lookUp input = .ok () →
    t.has input → t.outputFor input o.output Path.defaultSuffix = .error e →
    Stops homes markup t argv (.failed (.output e))
  /-- The configuration is refused. -/
  | refused {o : Options} {input output : Path} {e : ConfigError} :
    Named homes t argv o input output → o.settings t = .error (.refused e) →
    Stops homes markup t argv (.exit 1)
  /-- There is no configuration to refuse. -/
  | config {o : Options} {input output : Path} {e : LoadError} :
    Named homes t argv o input output → o.settings t = .error e → (∀ r, e ≠ .refused r) →
    Stops homes markup t argv (.failed (.config e))
  /-- The input cannot be read as a text. -/
  | read {o : Options} {input output : Path} {config : Config} {e : ReadError} :
    Named homes t argv o input output → o.settings t = .ok config →
    t.readText input = .error e → Stops homes markup t argv (.failed (.read e))
  /-- The text of the input cannot be read as markup. -/
  | markup {o : Options} {input output : Path} {config : Config} {text : String}
    {f : Markdown.Fault} : Named homes t argv o input output → o.settings t = .ok config →
    t.readText input = .ok text → markup text = .error f →
    Stops homes markup t argv (.failed (.markup f))
  /-- The tokens of the input are not those of a document, and no construct is rejected. -/
  | build {o : Options} {input output : Path} {config : Config} {reading : Reading}
    {e : Markup.BuildError} : Ready homes markup t argv o input output config reading →
    Markup.document reading.tokens = .error e → (∀ r, e ≠ .rejected r) →
    Stops homes markup t argv (.failed (.preview (.build e)))

section

variable {homes : Homes} {markup : MarkupReader} {t t' : FileTree} {argv : List String}
  {o : Options} {input output : Path} {config : Config} {reading : Reading}

lemma Named.gives_chooseOutput (h : Named homes t argv o input output) :
    (chooseOutput input o).Gives t (.ok output) t := by
  refine gives_get_bind fun _ => (gives_orFail h.lookUp t).bind ?_
  rw [if_pos h.has]
  exact gives_orFail h.outputFor t

lemma run_configure (hsettings : o.settings t = .ok config) (records : List LogRecord) :
    (configure o).run.run ⟨t, records⟩ = (.ok config, ⟨t, records⟩) := by
  rw [configure, run_get_bind, hsettings]
  rfl

lemma gives_configure (hsettings : o.settings t = .ok config) :
    (configure o).Gives t (.ok config) t :=
  fun records => ⟨records, run_configure hsettings records⟩

lemma Ready.gives_readInput (h : Ready homes markup t argv o input output config reading) :
    (readInput markup input config).Gives t (.ok reading) t := by
  obtain ⟨text, htext, hreading⟩ := h.read
  refine (gives_say _ _ t).bind (gives_get_bind fun _ => (gives_orFail htext t).bind ?_)
  exact (gives_say _ _ t).bind ((gives_say _ _ t).bind (gives_orFail hreading t))

lemma gives_configure_refused {e : ConfigError} (hsettings : o.settings t = .error (.refused e)) :
    (configure o).Gives t (.error (.exit 1)) t := by
  refine gives_get_bind fun _ => ?_
  rw [hsettings]
  exact gives_giveUp e.message t

lemma gives_configure_error {e : LoadError} (hsettings : o.settings t = .error e)
    (he : ∀ r, e ≠ .refused r) : (configure o).Gives t (.error (.failed (.config e))) t := by
  refine gives_get_bind fun _ => ?_
  rw [hsettings]
  cases e with
  | refused r => exact absurd rfl (he r)
  | _ => exact gives_throw _ t

lemma run_of_gives {r : Except Ending Unit} (hparse : Options.parse argv = .ok o)
    (h : (session homes markup o).Gives t r t') :
    (run homes markup t argv).ending = endingOf r ∧ (run homes markup t argv).tree = t' := by
  obtain ⟨log, hlog⟩ := h []
  rw [run, hparse]
  simp only [hlog, and_true]
  cases r <;> rfl

/-- A run is followed from where the path of the input is known. -/
lemma run_of_input {r : Except Ending Unit} (hparse : Options.parse argv = .ok o)
    (hexpands : (Path.ofString o.input).Expands homes input)
    (h : (sessionFrom markup o input).Gives t r t') :
    (run homes markup t argv).ending = endingOf r ∧ (run homes markup t argv).tree = t' :=
  run_of_gives hparse ((gives_orFail (Path.expandUser_eq_ok_iff.2 hexpands) t).bind h)

/-- A run that ends before it writes leaves the tree as it is. -/
lemma Stops.run_eq {e : Ending} (h : Stops homes markup t argv e) :
    (run homes markup t argv).ending = e ∧ (run homes markup t argv).tree = t := by
  cases h with
  | help hparse | usage hparse =>
    rw [run, hparse]
    exact ⟨rfl, rfl⟩
  | home hparse hhomeless =>
    exact run_of_gives hparse
      (gives_orFail_error (Path.expandUser_eq_error_iff.2 hhomeless) t).bind_error
  | lookUp hparse hexpands hlookUp =>
    exact run_of_input hparse hexpands (Gives.bind_error
      (gives_get_bind fun _ => (gives_orFail_error hlookUp t).bind_error))
  | @missing o input hparse hexpands hlookUp hmissing =>
    have houtput : (chooseOutput input o).Gives t (.error (.failed (.noInput input.text))) t := by
      refine gives_get_bind fun _ => (gives_orFail hlookUp t).bind ?_
      rw [if_neg hmissing]
      exact gives_throw _ t
    exact run_of_input hparse hexpands houtput.bind_error
  | @output o input e hparse hexpands hlookUp hhas herror =>
    have houtput : (chooseOutput input o).Gives t (.error (.failed (.output e))) t := by
      refine gives_get_bind fun _ => (gives_orFail hlookUp t).bind ?_
      rw [if_pos hhas]
      exact gives_orFail_error herror t
    exact run_of_input hparse hexpands houtput.bind_error
  | refused hnamed hsettings =>
    exact run_of_input hnamed.parse hnamed.expands
      (hnamed.gives_chooseOutput.bind (gives_configure_refused hsettings).bind_error)
  | config hnamed hsettings he =>
    exact run_of_input hnamed.parse hnamed.expands
      (hnamed.gives_chooseOutput.bind (gives_configure_error hsettings he).bind_error)
  | read hnamed hsettings herror =>
    exact run_of_input hnamed.parse hnamed.expands (hnamed.gives_chooseOutput.bind
      ((gives_configure hsettings).bind (Gives.bind_error ((gives_say _ _ t).bind
        (gives_get_bind fun _ => (gives_orFail_error herror t).bind_error)))))
  | markup hnamed hsettings htext herror =>
    exact run_of_input hnamed.parse hnamed.expands (hnamed.gives_chooseOutput.bind
      ((gives_configure hsettings).bind (Gives.bind_error ((gives_say _ _ t).bind
        (gives_get_bind fun _ => (gives_orFail htext t).bind ((gives_say _ _ t).bind
          ((gives_say _ _ t).bind (gives_orFail_error herror t))))))))
  | build hready herror he =>
    exact run_of_input hready.parse hready.expands (hready.gives_chooseOutput.bind
      ((gives_configure hready.settings).bind (hready.gives_readInput.bind
        (gives_orFail_error (Preview.ofReading_of_error _ none herror he) t).bind_error)))

/-- A run that is ready makes the writes of its preview. -/
lemma Ready.writes_session (h : Ready homes markup t argv o input output config reading)
    {p : Preview} {logs : List LogRecord}
    (hp : Preview.ofReading config none reading = .ok (p, logs)) :
    (session homes markup o).Writes (previewWrites o output p) (failureEnding p.failure) t :=
  (gives_orFail (Path.expandUser_eq_ok_iff.2 h.expands) t).bind (h.gives_chooseOutput.bind
    ((gives_configure h.settings).bind (h.gives_readInput.bind ((gives_orFail hp t).bind
      ((gives_log logs t).bind (writes_writePreview o output p t))))))

/-- Whether a file could not be written or looked up. -/
def Ending.isFileFailure : Ending → Bool
  | .failed (.file _) => true
  | _ => false

/-- What a run leaves that makes some writes: a write fails and ends it, or all of them are made. -/
lemma run_of_writes {ws : List (Path × String)} {r : Except Ending Unit}
    (hparse : Options.parse argv = .ok o) (h : (session homes markup o).Writes ws r t) :
    let out := run homes markup t argv
    out.tree = (writeAll ws t).2 ∧
      ((∃ e, (writeAll ws t).1 = .error e ∧ out.ending = .failed (.file e)) ∨
        out.ending = endingOf r ∧ Leaves ws t out.tree) := by
  intro out
  obtain ⟨hending, htree⟩ := run_of_gives hparse h
  refine ⟨htree, ?_⟩
  rw [hending, htree]
  match hall : writeAll ws t with
  | (.ok _, t') => exact .inr ⟨rfl, leaves_of_writeAll hall⟩
  | (.error e, t') => exact .inl ⟨e, rfl, rfl⟩

lemma leaves_of_not_isFileFailure {ws : List (Path × String)} {r : Except Ending Unit}
    (hparse : Options.parse argv = .ok o) (h : (session homes markup o).Writes ws r t)
    (hclean : ¬ (run homes markup t argv).ending.isFileFailure) :
    (run homes markup t argv).ending = endingOf r ∧
      Leaves ws t (run homes markup t argv).tree := by
  refine (run_of_writes hparse h).2.resolve_left ?_
  rintro ⟨e, -, he⟩
  rw [he] at hclean
  exact hclean rfl

/-! ## What is written -/

lemma named_eq_none_iff (name : Option String) : named name = none ↔ ¬ name.any (!·.isEmpty) := by
  cases name <;> simp [named, Option.filter_eq_none_iff]

/-- A text that is there whenever it is named is written as it is. -/
lemma writesTo_ite {name text : Option String} {c : Bool} (hc : name.any (!·.isEmpty) → c) :
    writesTo name (if c then text else none) = writesTo name text := by
  by_cases hnamed : name.any (!·.isEmpty)
  · rw [if_pos (hc hnamed)]
  · simp only [writesTo, (named_eq_none_iff name).mpr hnamed]

/-- The options ask for the HTML and the dump that they name a file for. -/
lemma of_settings_eq_ok (h : o.settings t = .ok config) :
    (o.html.any (!·.isEmpty) → config.htmlPreview) ∧
      (o.details.any (!·.isEmpty) → config.showDetails) := by
  rw [Options.settings] at h
  split at h
  all_goals
    obtain ⟨base, -, hconfig⟩ := exists_of_bind_eq_ok h
    obtain rfl := Except.ok.inj hconfig
    exact ⟨id, fun hdetails => by simp [hdetails]⟩

lemma writesTo_none (name : Option String) : writesTo name none = [] := by
  unfold writesTo
  cases named name <;> rfl

namespace Ready

variable (h : Ready homes markup t argv o input output config reading)
include h

lemma writes_of_rejected {r : Rejection}
    (hdoc : Markup.document reading.tokens = .error (.rejected r)) :
    (session homes markup o).Writes (writesTo o.html (some reading.html)) (.error (.exit 1)) t := by
  obtain ⟨logs, hp⟩ := Preview.ofReading_of_rejected config none hdoc
  have hwrites := h.writes_session hp
  rwa [previewWrites, writesTo_ite (of_settings_eq_ok h.settings).1, writesTo_none,
    List.nil_append, List.append_nil] at hwrites

lemma writes_of_toCode_error {d : Document} {e : MappingError}
    (hdoc : Markup.document reading.tokens = .ok d) (hcode : d.toCode = .error e) :
    (session homes markup o).Writes
      (writesTo o.html (some reading.html) ++ writesTo o.details (some d.dump))
      (.error (.exit 1)) t := by
  obtain ⟨logs, hp⟩ := Preview.ofReading_of_toCode_error config none hdoc hcode
  have hwrites := h.writes_session hp
  rwa [previewWrites, writesTo_ite (of_settings_eq_ok h.settings).1,
    writesTo_ite (of_settings_eq_ok h.settings).2, List.append_nil] at hwrites

lemma writes_of_printCode {d : Document} {code : String}
    (hdoc : Markup.document reading.tokens = .ok d)
    (hcode : d.printCode config.prefixMode = .ok code) :
    (session homes markup o).Writes
      (writesTo o.html (some reading.html) ++ (writesTo o.details (some d.dump) ++
        [(output, if code.isEmpty then "" else code ++ "\n")])) (.ok ()) t := by
  obtain ⟨cs, hcs, rfl⟩ := Document.exists_toCode_of_printCode hcode
  obtain ⟨logs, hp⟩ := Preview.ofReading_of_toCode config hdoc hcs
  have hwrites := h.writes_session hp
  rwa [previewWrites, writesTo_ite (of_settings_eq_ok h.settings).1,
    writesTo_ite (of_settings_eq_ok h.settings).2] at hwrites

end Ready

/-- The files that a run may write. -/
def targets (o : Options) (output : Path) : List Path :=
  (named o.html).toList ++ ((named o.details).toList ++ [output])

lemma map_fst_writesTo_subset (name text : Option String) :
    (writesTo name text).map (·.1) ⊆ (named name).toList := by
  unfold writesTo
  cases named name <;> cases text <;> simp

lemma map_fst_previewWrites_subset (o : Options) (output : Path) (p : Preview) :
    (previewWrites o output p).map (·.1) ⊆ targets o output := by
  rw [previewWrites, List.map_append, List.map_append, targets]
  intro q hq
  simp only [List.mem_append] at hq ⊢
  rcases hq with hq | hq | hq
  · exact .inl (map_fst_writesTo_subset _ _ hq)
  · exact .inr (.inl (map_fst_writesTo_subset _ _ hq))
  · cases hfailure : p.failure <;> simp_all

/-- A run that knows its paths ends before it writes, or is ready to write. -/
lemma Named.stops_or_ready (h : Named homes t argv o input output) :
    (∃ e, Stops homes markup t argv e) ∨ ∃ o input output config reading,
      Ready homes markup t argv o input output config reading ∧
        ∀ e, Markup.document reading.tokens = .error e → ∃ r, e = .rejected r := by
  match hsettings : o.settings t with
  | .error (.refused e) => exact .inl ⟨_, .refused h hsettings⟩
  | .error (.unreadable e) => exact .inl ⟨_, .config h hsettings (by simp)⟩
  | .error (.worthless e) => exact .inl ⟨_, .config h hsettings (by simp)⟩
  | .error .unshowable => exact .inl ⟨_, .config h hsettings (by simp)⟩
  | .ok config =>
    match htext : t.readText input with
    | .error e => exact .inl ⟨_, .read h hsettings htext⟩
    | .ok text =>
      match hreading : markup text with
      | .error f => exact .inl ⟨_, .markup h hsettings htext hreading⟩
      | .ok reading =>
        have hready : Ready homes markup t argv o input output config reading :=
          ⟨h, hsettings, text, htext, hreading⟩
        by_cases hbuild : ∀ e, Markup.document reading.tokens = .error e → ∃ r, e = .rejected r
        · exact .inr ⟨o, input, output, config, reading, hready, hbuild⟩
        · push Not at hbuild
          obtain ⟨e, hdoc, he⟩ := hbuild
          exact .inl ⟨_, .build hready hdoc he⟩

/-- Every run ends before it writes, or is ready to write and either has a document or rejects a
construct. -/
lemma exists_stops_or_ready (homes : Homes) (markup : MarkupReader) (t : FileTree)
    (argv : List String) :
    (∃ e, Stops homes markup t argv e) ∨ ∃ o input output config reading,
      Ready homes markup t argv o input output config reading ∧
        ∀ e, Markup.document reading.tokens = .error e → ∃ r, e = .rejected r := by
  match hparse : Options.parse argv with
  | .error .help => exact .inl ⟨_, .help hparse⟩
  | .error (.wrong _) => exact .inl ⟨_, .usage hparse⟩
  | .ok o =>
    match hexpand : (Path.ofString o.input).expandUser homes with
    | .error e => exact .inl ⟨_, .home hparse (Path.expandUser_eq_error_iff.1 hexpand)⟩
    | .ok input =>
      have hexpands := Path.expandUser_eq_ok_iff.1 hexpand
      match hlookUp : t.lookUp input with
      | .error e => exact .inl ⟨_, .lookUp hparse hexpands hlookUp⟩
      | .ok () =>
        by_cases hhas : t.has input
        case neg => exact .inl ⟨_, .missing hparse hexpands hlookUp hhas⟩
        match houtput : t.outputFor input o.output Path.defaultSuffix with
        | .error e => exact .inl ⟨_, .output hparse hexpands hlookUp hhas houtput⟩
        | .ok output => exact (Named.mk hparse hexpands hlookUp hhas houtput).stops_or_ready

lemma Ready.touches (h : Ready homes markup t argv o input output config reading) :
    Touches (targets o output) ((targets o output).flatMap Path.parents) t
      (run homes markup t argv).tree := by
  match hp : Preview.ofReading config none reading with
  | .ok (p, logs) =>
    rw [(run_of_writes h.parse (h.writes_session hp)).1]
    exact (writeAll_touches _ t).widen (map_fst_previewWrites_subset o output p)
  | .error e =>
    have hrun := run_of_input h.parse h.expands (h.gives_chooseOutput.bind
      ((gives_configure h.settings).bind
        (h.gives_readInput.bind (gives_orFail_error hp t).bind_error)))
    rw [hrun.2]
    exact .refl t

/-- Of the runs that end before they write, only those that show the help end with status zero. -/
lemma Stops.parse_of_exit_zero (h : Stops homes markup t argv (.exit 0)) :
    Options.parse argv = .error .help := by
  cases h with
  | help hparse => exact hparse

/-- A run with options that ends with status zero has written the code of its document. -/
lemma exists_ready_of_exit_zero (hparse : Options.parse argv = .ok o)
    (hexit : (run homes markup t argv).ending = .exit 0) :
    ∃ input output config reading d code,
      Ready homes markup t argv o input output config reading ∧
      Markup.document reading.tokens = .ok d ∧ d.printCode config.prefixMode = .ok code ∧
      Leaves (writesTo o.html (some reading.html) ++ (writesTo o.details (some d.dump) ++
        [(output, if code.isEmpty then "" else code ++ "\n")])) t
        (run homes markup t argv).tree := by
  rcases exists_stops_or_ready homes markup t argv with
    ⟨e, hstops⟩ | ⟨o', input, output, config, reading, h, hb⟩
  · obtain rfl : e = .exit 0 := hstops.run_eq.1.symm.trans hexit
    exact absurd (hparse.symm.trans hstops.parse_of_exit_zero) (by simp)
  · obtain rfl : o' = o := Except.ok.inj (h.parse.symm.trans hparse)
    have hclean : ¬ (run homes markup t argv).ending.isFileFailure := by
      simp [hexit, Ending.isFileFailure]
    -- whatever is rejected ends a run with status one
    match hdoc : Markup.document reading.tokens with
    | .error e =>
      obtain ⟨r, rfl⟩ := hb e hdoc
      have hone := (leaves_of_not_isFileFailure hparse (h.writes_of_rejected hdoc) hclean).1
      simp [hexit, endingOf] at hone
    | .ok d =>
      match hcode : d.toCode with
      | .error e =>
        have hone :=
          (leaves_of_not_isFileFailure hparse (h.writes_of_toCode_error hdoc hcode) hclean).1
        simp [hexit, endingOf] at hone
      | .ok cs =>
        have hprint := Document.printCode_of_toCode hcode config.prefixMode
        exact ⟨input, output, config, reading, d, _, h, hdoc, hprint,
          (leaves_of_not_isFileFailure hparse (h.writes_of_printCode hdoc hprint) hclean).2⟩

end

/-- **What a run leaves.**  A run that ends before it writes leaves the tree as it is.  Every other
run changes no files but those at its targets, and makes no directories but those above them.

Let all of its writes succeed.  When a construct is rejected, it ends with status one; if the
builder has rejected it, the HTML is all that has been written, and if the mapping has, the HTML and
then the dump.  When the document has code, it ends with status zero, and the HTML, the dump and the
code have been written in this order, the code to the path that was chosen on the tree at the start.
No other run ends with status zero, apart from one that shows the help. -/
theorem run_leaves (homes : Homes) (markup : MarkupReader) (t : FileTree) (argv : List String) :
    let out := run homes markup t argv
    (∀ e, Stops homes markup t argv e → out.ending = e ∧ out.tree = t) ∧
    (∀ o input output config reading, Ready homes markup t argv o input output config reading →
      Touches (targets o output) ((targets o output).flatMap Path.parents) t out.tree ∧
      (¬ out.ending.isFileFailure →
        (∀ r, Markup.document reading.tokens = .error (.rejected r) →
          out.ending = .exit 1 ∧ Leaves (writesTo o.html (some reading.html)) t out.tree) ∧
        (∀ d e, Markup.document reading.tokens = .ok d → d.toCode = .error e →
          out.ending = .exit 1 ∧
          Leaves (writesTo o.html (some reading.html) ++ writesTo o.details (some d.dump))
            t out.tree) ∧
        (∀ d code, Markup.document reading.tokens = .ok d →
          d.printCode config.prefixMode = .ok code →
          out.ending = .exit 0 ∧
          Leaves (writesTo o.html (some reading.html) ++ (writesTo o.details (some d.dump) ++
            [(output, if code.isEmpty then "" else code ++ "\n")])) t out.tree))) ∧
    (∀ o, Options.parse argv = .ok o → out.ending = .exit 0 →
      ∃ input output config reading d code,
        Ready homes markup t argv o input output config reading ∧
        Markup.document reading.tokens = .ok d ∧ d.printCode config.prefixMode = .ok code ∧
        Leaves (writesTo o.html (some reading.html) ++ (writesTo o.details (some d.dump) ++
          [(output, if code.isEmpty then "" else code ++ "\n")])) t out.tree) ∧
    ((∃ e, Stops homes markup t argv e) ∨ ∃ o input output config reading,
      Ready homes markup t argv o input output config reading ∧
        ∀ e, Markup.document reading.tokens = .error e → ∃ r, e = .rejected r) := by
  intro out
  refine ⟨fun e h => h.run_eq,
    fun o input output config reading h => ⟨h.touches, fun hclean => ⟨?_, ?_, ?_⟩⟩,
    fun o => exists_ready_of_exit_zero, exists_stops_or_ready homes markup t argv⟩
  · intro r hdoc
    exact leaves_of_not_isFileFailure h.parse (h.writes_of_rejected hdoc) hclean
  · intro d e hdoc hcode
    exact leaves_of_not_isFileFailure h.parse (h.writes_of_toCode_error hdoc hcode) hclean
  · intro d code hdoc hcode
    exact leaves_of_not_isFileFailure h.parse (h.writes_of_printCode hdoc hcode) hclean

/-- The input lies in a home directory, the HTML and the dump go to one file by two paths, the
second through a directory that is made for it, and the document has a line break: the dump is left,
and no code. -/
theorem run_leaves_dump_over_html :
    let t : FileTree :=
      { files := [([['w'], "a.md".toList], [])], dirs := [[['w']]], cwd := [['w']] }
    let homes : Homes := fun user => if user = ['u'] then some "/w/".toList else none
    let argv := ["~u/a.md", "--html", "out/p", "--details", "new/../out/p"]
    let line : Markup.Token := { kind := .inline, children := [{ kind := .hardbreak }] }
    let markup : MarkupReader := fun _ =>
      .ok ⟨[{ kind := .paragraphOpen }, line, { kind := .paragraphClose }], "<p><br></p>"⟩
    let d : Document := ⟨[.paragraph [.linebreak]]⟩
    (run homes markup t argv).ending = .exit 1 ∧
      (run homes markup t argv).tree.file? [['w'], "out".toList, ['p']] =
        some d.dump.toUTF8.toList ∧
      (run homes markup t argv).tree.file? [['w'], "a.gleam".toList] = none := by
  intro t homes argv line markup d
  let o : Options := ⟨"~u/a.md", none, some "out/p", some "new/../out/p", none, none, false⟩
  let reading : Reading :=
    ⟨[{ kind := .paragraphOpen }, line, { kind := .paragraphClose }], "<p><br></p>"⟩
  have hready : Ready homes markup t argv o (.ofString "/w/a.md") (.ofString "/w/a.gleam")
      { showDetails := true, htmlPreview := true } reading := by
    dsimp only [t, argv, o]
    refine ⟨⟨?_, Path.expandUser_eq_ok_iff.1 ?_, ?_, ?_, ?_⟩, ?_, "", ?_, rfl⟩ <;> rfl
  have hdoc : Markup.document reading.tokens = .ok d := by
    simp [reading, line, d, Markup.document, Markup.blocks, Markup.blocksAt, Markup.runningText,
      Markup.inlines, Markup.inlinesAt, bind, Except.bind, pure, Except.pure]
  have hcode : d.toCode = .error (.rejected ⟨"Linebreak", none⟩) := rfl
  obtain ⟨hending, htree⟩ := run_of_gives hready.parse (hready.writes_of_toCode_error hdoc hcode)
  have hclean : ¬ (run homes markup t argv).ending.isFileFailure := by
    rw [hending]
    exact Bool.false_ne_true
  obtain ⟨hexit, hleaves⟩ :=
    (((run_leaves homes markup t argv).2.1 o _ _ _ reading hready).2 hclean).2.1 d _ hdoc hcode
  have hhtml : (run homes markup t argv).tree.find (.ofString "out/p") =
      .file [['w'], "out".toList, ['p']] := by
    rw [htree]
    dsimp only [t, o, reading, d]
    rfl
  have hdetails : (run homes markup t argv).tree.find (.ofString "new/../out/p") =
      .file [['w'], "out".toList, ['p']] := by
    rw [htree]
    dsimp only [t, o, reading, d]
    rfl
  refine ⟨hexit, ?_, ?_⟩
  · obtain ⟨l, hl, hfile⟩ :=
      hleaves.holds (.ofString "new/../out/p", d.dump) [] (List.suffix_append _ _)
    rw [← Found.file.inj (hl.symm.trans hdetails)]
    exact hfile (by simp)
  · rcases hleaves.file?_eq [['w'], "a.gleam".toList] with hsame | ⟨p, hp, hfind⟩
    · exact hsame
    · rcases List.mem_pair.mp hp with rfl | rfl
      · simp [hhtml] at hfind
      · simp [hdetails] at hfind

end ElementCode.Command
