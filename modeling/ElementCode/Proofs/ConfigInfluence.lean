import ElementCode.Proofs.Runs
import ElementCode.Proofs.TwinTrees

/-!
# What a configuration file influences

Of the three settings in a configuration file, a run takes only the prefix mode, and that only
without an option for it.  The HTML is asked for by an option alone.  The file may ask for the dump,
but a dump without a path to write it to is dropped again.

So two runs that differ in the content of the configuration file are the same if the mode is.  There
are two steps to it.  Given its configuration, a run is a session that does not look for one
(`sessionWith`), and for configurations that matter alike it is the very same session
(`sessionWith_congr`).  A session that does not read a file does not see its content (`Blind`): on
two trees that are the same but for that file it ends alike, logs alike and writes alike.
-/

namespace ElementCode.Command

open FileTree Session

variable {homes : Homes} {markup : MarkupReader} {o : Options} {t t' : FileTree} {l : Location}
  {input : Path}

/-! ## What matters of a configuration -/

/-- A configuration with what the options say. -/
def Options.over (o : Options) (base : Config) : Config where
  prefixMode := o.mode.getD base.prefixMode
  showDetails := base.showDetails || o.details.any (!·.isEmpty)
  htmlPreview := o.html.any (!·.isEmpty)

/-- The mode that the options choose: their own, or else that of the configuration file, or else
the bare one. -/
def Options.chosenMode (o : Options) (t : FileTree) : PrefixMode :=
  match o.mode, o.config.filter (!·.isEmpty) with
  | some mode, _ => mode
  | none, none => .bare
  | none, some path =>
    match Config.load t path with
    | .ok base => base.prefixMode
    | .error _ => .bare

/-- An empty path leads to the working directory, which is no configuration file. -/
lemma load_empty_ne_ok (t : FileTree) (base : Config) : Config.load t "" ≠ .ok base := by
  have hfind : t.find (.ofString "") = .directory t.cwd := rfl
  rw [Config.load, readText, readBytes, hfind]
  simp

lemma settings_of_load {path : String} {base : Config} (hpath : o.config = some path)
    (hload : Config.load t path = .ok base) : o.settings t = .ok (o.over base) := by
  have hne : path ≠ "" := by
    rintro rfl
    exact load_empty_ne_ok t base hload
  have hfilter : o.config.filter (!·.isEmpty) = some path := by
    simp [hpath, Option.filter, hne]
  rw [Options.settings, hfilter]
  simp only [hload]
  rfl

lemma prefixMode_of_settings {config : Config} (h : o.settings t = .ok config) :
    config.prefixMode = o.chosenMode t := by
  rw [Options.settings] at h
  rw [Options.chosenMode]
  cases hpath : o.config.filter (!·.isEmpty) with
  | none =>
    rw [hpath] at h
    obtain rfl := Except.ok.inj h
    cases o.mode <;> rfl
  | some path =>
    rw [hpath] at h
    obtain ⟨base, hload, h⟩ := exists_of_bind_eq_ok h
    obtain rfl := Except.ok.inj h
    cases o.mode with
    | some mode => rfl
    | none => simp only [hload, Option.getD_none]

/-- The configurations are the same for a run with the options: they may differ in whether they ask
for the dump, if the options name no file for it. -/
structure SameFor (o : Options) (c c' : Config) : Prop where
  prefixMode : c'.prefixMode = c.prefixMode
  htmlPreview : c'.htmlPreview = c.htmlPreview
  showDetails : o.details.any (!·.isEmpty) → c'.showDetails = c.showDetails

/-- What a configuration file says beside the mode does not matter. -/
lemma sameFor_over {base base' : Config}
    (hmode : o.mode.isSome ∨ base'.prefixMode = base.prefixMode) :
    SameFor o (o.over base) (o.over base') where
  prefixMode := by
    rw [Options.over, Options.over]
    cases ho : o.mode with
    | some mode => rfl
    | none => simpa [ho] using hmode
  htmlPreview := rfl
  showDetails hdetails := by simp [Options.over, hdetails]

/-! ## Runs with a configuration -/

/-- A run with its options and its configuration, from where the path of the input is known. -/
def sessionWith (markup : MarkupReader) (o : Options) (config : Config) (input : Path) :
    Session Unit := do
  let output ← chooseOutput input o
  let reading ← readInput markup input config
  let (preview, records) ← orFail .preview (Preview.ofReading config none reading)
  log records
  writePreview o output preview

/-- Choosing the output changes nothing and logs nothing. -/
lemma run_chooseOutput (input : Path) (o : Options) (w : World) :
    ∃ r, (chooseOutput input o).run.run w = (r, w) := by
  rw [chooseOutput, run_get_bind]
  dsimp only
  cases w.tree.lookUp input with
  | error e => exact ⟨_, rfl⟩
  | ok =>
    cases w.tree.has input with
    | false => exact ⟨_, rfl⟩
    | true =>
      cases w.tree.outputFor input o.output Path.defaultSuffix with
      | error e => exact ⟨_, rfl⟩
      | ok output => exact ⟨_, rfl⟩

/-- A run that has a path for its input and a configuration is the run with them. -/
lemma run_session (markup : MarkupReader) {config : Config}
    (hexpand : (Path.ofString o.input).expandUser homes = .ok input)
    (hsettings : o.settings t = .ok config) (records : List LogRecord) :
    (session homes markup o).run.run ⟨t, records⟩ =
      (sessionWith markup o config input).run.run ⟨t, records⟩ := by
  obtain ⟨r, hr⟩ := run_chooseOutput input o ⟨t, records⟩
  rw [session, hexpand, run_bind_of_ok (by rfl), sessionFrom, sessionWith]
  cases r with
  | error e => rw [run_bind_of_error hr, run_bind_of_error hr]
  | ok output =>
    rw [run_bind_of_ok hr, run_bind_of_ok hr, run_bind_of_ok (run_configure hsettings records)]

lemma writeTo_congr {name text text' : Option String} (what : String)
    (h : name.any (!·.isEmpty) → text' = text) :
    writeTo name what text' = writeTo name what text := by
  by_cases hname : name.any (!·.isEmpty)
  · rw [h hname]
  · have hnone : name.filter (!·.isEmpty) = none := by
      cases name <;> simp_all [Option.filter_eq_none_iff]
    unfold writeTo
    rw [hnone]

/-- Configurations that are the same for a run give previews that differ at most in the dump, and
in that only if it is not written. -/
lemma ofReading_sameFor {c c' : Config} (h : SameFor o c c') (reading : Reading) :
    (∃ e, Preview.ofReading c none reading = .error e ∧
      Preview.ofReading c' none reading = .error e) ∨
    ∃ (p : Preview) (details : Option String) (records : List LogRecord),
      Preview.ofReading c none reading = .ok (p, records) ∧
      Preview.ofReading c' none reading = .ok ({ p with details }, records) ∧
      (o.details.any (!·.isEmpty) → details = p.details) := by
  cases hdoc : Markup.document reading.tokens with
  | ok d =>
    have hdump (hdetails : o.details.any (!·.isEmpty)) :
        (if c'.showDetails then some d.dump else none) =
          if c.showDetails then some d.dump else none := by
      rw [h.showDetails hdetails]
    simp only [Preview.ofReading, Preview.ofReadingM, hdoc, Preview.ofDocumentM, h.prefixMode,
      h.htmlPreview]
    cases d.printCode c.prefixMode with
    | ok code => exact .inr ⟨_, _, _, rfl, rfl, hdump⟩
    | error e =>
      cases e with
      | rejected r => exact .inr ⟨_, _, _, rfl, rfl, hdump⟩
      | _ => exact .inl ⟨_, rfl, rfl⟩
  | error e =>
    simp only [Preview.ofReading, Preview.ofReadingM, hdoc, h.htmlPreview]
    cases e with
    | rejected r => exact .inr ⟨_, none, _, rfl, rfl, fun _ => rfl⟩
    | _ => exact .inl ⟨_, rfl, rfl⟩

/-- Configurations that are the same for a run make the same session of it. -/
lemma sessionWith_congr {c c' : Config} (h : SameFor o c c') :
    sessionWith markup o c' input = sessionWith markup o c input := by
  have hread : readInput markup input c' = readInput markup input c := by
    rw [readInput, readInput, h.prefixMode]
  rw [sessionWith, sessionWith, hread]
  refine bind_congr fun output => bind_congr fun reading => ?_
  obtain ⟨e, he, he'⟩ | ⟨p, details, records, hp, hp', hdetails⟩ := ofReading_sameFor h reading
  · rw [he, he']
  · rw [hp, hp']
    have hwrite : writePreview o output { p with details } = writePreview o output p := by
      rw [writePreview, writePreview, writeTo_congr "document dump" hdetails]
    simp only [orFail, pure_bind, hwrite]

/-! ## Sessions that do not see a file -/

namespace Session

variable {α β : Type} {R R' : FileTree → FileTree → Prop} {s : Session α} {f : α → Session β}

/-- On trees in the first relation, a part of a run ends alike and logs alike, and leaves trees in
the second relation. -/
def Blind (R R' : FileTree → FileTree → Prop) (s : Session α) : Prop :=
  ∀ t t' records, R t t' → ∃ r made made' records',
    s.run.run ⟨t, records⟩ = (r, ⟨made, records'⟩) ∧
    s.run.run ⟨t', records⟩ = (r, ⟨made', records'⟩) ∧ R' made made'

lemma blind_pure (a : α) : Blind R R (pure a) :=
  fun t t' records h => ⟨.ok a, t, t', records, rfl, rfl, h⟩

lemma blind_throw (e : Ending) : Blind R R (throw e : Session α) :=
  fun t t' records h => ⟨.error e, t, t', records, rfl, rfl, h⟩

lemma blind_log (new : List LogRecord) : Blind R R (log new) :=
  fun t t' records h => ⟨.ok (), t, t', records ++ new, rfl, rfl, h⟩

lemma blind_orFail {ε : Type} (g : ε → Failure) (r : Except ε α) : Blind R R (orFail g r) := by
  cases r with
  | ok a => exact blind_pure a
  | error e => exact blind_throw _

lemma Blind.bind (hs : Blind R R s) (hR : ∀ t t', R t t' → R' t t')
    (hf : ∀ a, Blind R R' (f a)) : Blind R R' (s >>= f) := by
  intro t t' records h
  obtain ⟨r, made, made', records', hrun, hrun', hmade⟩ := hs t t' records h
  cases r with
  | error e =>
    exact ⟨.error e, made, made', records', run_bind_of_error hrun, run_bind_of_error hrun',
      hR made made' hmade⟩
  | ok a =>
    rw [run_bind_of_ok hrun, run_bind_of_ok hrun']
    exact hf a made made' records' hmade

lemma Blind.seq (hs : Blind R R s) (hf : ∀ a, Blind R R (f a)) : Blind R R (s >>= f) :=
  hs.bind (fun _ _ h => h) hf

/-- A session that looks at the tree, in a way in which the two trees do not differ. -/
lemma blind_get_bind {f : World → Session α} (hf : ∀ t t' records, R t t' →
    f ⟨t', records⟩ = f ⟨t, records⟩ ∧ Blind R R' (f ⟨t, records⟩)) : Blind R R' (get >>= f) := by
  intro t t' records h
  obtain ⟨hsame, hblind⟩ := hf t t' records h
  obtain ⟨r, made, made', records', hrun, hrun', hmade⟩ := hblind t t' records h
  refine ⟨r, made, made', records', hrun, ?_, hmade⟩
  rw [← hsame] at hrun'
  exact hrun'

lemma blind_giveUp (message : String) : Blind R R (giveUp message : Session α) :=
  (blind_log _).seq fun _ => blind_throw _

lemma blind_writeFile (p : Path) (text : String) :
    Blind (SameBut l) (SameBut l) (writeFile p text) := by
  have hrun (t : FileTree) (records : List LogRecord) :
      (writeFile p text).run.run ⟨t, records⟩ =
        (orFail .file (t.write p text).1 : Session Unit).run.run ⟨(t.write p text).2, records⟩ :=
    rfl
  intro t t' records h
  obtain ⟨hresult, hmade⟩ := h.write p text
  rw [hrun, hrun, hresult]
  exact blind_orFail .file (t.write p text).1 _ _ records hmade

end Session

lemma blind_writeTo (name : Option String) (what : String) (text : Option String) :
    Blind (SameBut l) (SameBut l) (writeTo name what text) := by
  unfold writeTo
  cases name.filter (!·.isEmpty) with
  | none => exact blind_pure ()
  | some path =>
    cases text with
    | none => exact blind_pure ()
    | some text => exact (blind_log _).seq fun _ => blind_writeFile _ text

lemma blind_writePreview (o : Options) (output : Path) (p : Preview) :
    Blind (SameBut l) (SameBut l) (writePreview o output p) := by
  rw [writePreview]
  refine (blind_writeTo _ _ _).seq fun _ => (blind_writeTo _ _ _).seq fun _ => ?_
  cases p.failure with
  | some message => exact blind_giveUp message
  | none => exact (blind_writeFile _ _).seq fun _ => blind_log _

/-- The trees are the same but for a file to which the path does not lead. -/
def SameAt (l : Location) (p : Path) (t t' : FileTree) : Prop :=
  SameBut l t t' ∧ t.find p ≠ .file l

lemma blind_chooseOutput (input : Path) (o : Options) :
    Blind (SameAt l input) (SameAt l input) (chooseOutput input o) := by
  refine blind_get_bind fun t t' records h => ⟨?_, ?_⟩
  · simp only [h.1.lookUp_eq, h.1.has_eq, h.1.outputFor_eq]
  · refine (blind_orFail _ _).seq fun _ => ?_
    split_ifs
    · exact blind_orFail _ _
    · exact blind_throw _

lemma blind_readInput (markup : MarkupReader) (input : Path) (config : Config) :
    Blind (SameAt l input) (SameAt l input) (readInput markup input config) := by
  refine (blind_log _).seq fun _ => blind_get_bind fun t t' records h => ⟨?_, ?_⟩
  · simp only [h.1.readText_eq h.2]
  · exact (blind_orFail _ _).seq fun text => (blind_log _).seq fun _ =>
      (blind_log _).seq fun _ => blind_orFail _ _

/-- With its configuration, a run does not see the content of a file that is not its input. -/
lemma blind_sessionWith (markup : MarkupReader) (o : Options) (config : Config) (input : Path) :
    Blind (SameAt l input) (SameBut l) (sessionWith markup o config input) := by
  have hweak : ∀ t t', SameAt l input t t' → SameBut l t t' := fun t t' h => h.1
  refine (blind_chooseOutput input o).bind hweak fun output => ?_
  refine (blind_readInput markup input config).bind hweak fun reading => ?_
  refine (blind_orFail _ _).bind hweak fun (preview, records) => ?_
  refine (blind_log records).bind hweak fun _ => ?_
  exact fun t t' records h => blind_writePreview o output preview t t' records h.1

/-- On trees that are the same but for a file that is not the input, and with configurations that
are the same for it, a run ends alike, logs alike and leaves trees that are the same but for that
file. -/
lemma run_session_sameBut (markup : MarkupReader) {c c' : Config} (hsame : SameBut l t t')
    (hinput : ∀ input, (Path.ofString o.input).Expands homes input → t.find input ≠ .file l)
    (hsettings : o.settings t = .ok c) (hsettings' : o.settings t' = .ok c')
    (hconfig : SameFor o c c') :
    ∃ r made made' records, (session homes markup o).run.run ⟨t, []⟩ = (r, ⟨made, records⟩) ∧
      (session homes markup o).run.run ⟨t', []⟩ = (r, ⟨made', records⟩) ∧
      SameBut l made made' := by
  cases hexpand : (Path.ofString o.input).expandUser homes with
  | error e =>
    have hrun (t : FileTree) : (session homes markup o).run.run ⟨t, []⟩ =
        (.error (.failed (.home e)), ⟨t, []⟩) := by
      rw [session, hexpand]
      exact run_bind_of_error (by rfl)
    exact ⟨_, t, t', [], hrun t, hrun t', hsame⟩
  | ok input =>
    -- both runs are one session, which does not see the file
    rw [run_session markup hexpand hsettings, run_session markup hexpand hsettings',
      sessionWith_congr hconfig]
    have hother := hinput input (Path.expandUser_eq_ok_iff.1 hexpand)
    exact blind_sessionWith markup o c input t t' [] ⟨hsame, hother⟩

/-- **What a configuration file influences.**  Let two trees be the same but for one file, which is
not the input, and let both hold a configuration in the file that the arguments name.  If the
arguments choose the mode, or if the two configurations have the same one, then the two runs end
alike and print alike, and the trees that they leave are the same but for that file.

Every run generates its code in the mode that the arguments choose, or else in that of the
configuration file, or else in the bare one: this code is the last thing that a run writes, unless a
write fails, and no run without it ends with status zero. -/
theorem run_eq_of_prefixMode_eq (homes : Homes) (markup : MarkupReader) (argv : List String) :
    (∀ l t t', SameBut l t t' →
      (∀ o, Options.parse argv = .ok o →
        (∀ input, (Path.ofString o.input).Expands homes input → t.find input ≠ .file l) ∧
        ∃ path base base', o.config = some path ∧ Config.load t path = .ok base ∧
          Config.load t' path = .ok base' ∧ (o.mode.isSome ∨ base'.prefixMode = base.prefixMode)) →
      let out := run homes markup t argv
      let out' := run homes markup t' argv
      out'.ending = out.ending ∧ out'.output = out.output ∧ out'.errors = out.errors ∧
        SameBut l out.tree out'.tree) ∧
    ∀ t o, Options.parse argv = .ok o →
      let out := run homes markup t argv
      let writes (output : Path) (reading : Reading) (d : Document) (code : String) :=
        writesTo o.html (some reading.html) ++ (writesTo o.details (some d.dump) ++
          [(output, if code.isEmpty then "" else code ++ "\n")])
      (∀ input output config reading, Ready homes markup t argv o input output config reading →
        config.prefixMode = o.chosenMode t ∧
        ∀ d code, Markup.document reading.tokens = .ok d →
          d.printCode (o.chosenMode t) = .ok code →
          (∃ e, (writeAll (writes output reading d code) t).1 = .error e ∧
            out.ending = .failed (.file e)) ∨
          out.ending = .exit 0 ∧ Leaves (writes output reading d code) t out.tree) ∧
      (out.ending = .exit 0 →
        ∃ input output config reading d code,
          Ready homes markup t argv o input output config reading ∧
          Markup.document reading.tokens = .ok d ∧ d.printCode (o.chosenMode t) = .ok code ∧
          Leaves (writes output reading d code) t out.tree) := by
  refine ⟨fun l t t' hsame hread => ?_, fun t o hparse => ⟨?_, fun hexit => ?_⟩⟩
  · intro out out'
    match hparse : Options.parse argv with
    | .error .help | .error (.wrong _) =>
      simp only [out, out', run, hparse]
      exact ⟨trivial, trivial, trivial, hsame⟩
    | .ok o =>
      obtain ⟨hinput, path, base, base', hpath, hload, hload', hmode⟩ := hread o hparse
      obtain ⟨r, made, made', records, hrun, hrun', hmade⟩ :=
        run_session_sameBut markup hsame hinput (settings_of_load hpath hload)
          (settings_of_load hpath hload') (sameFor_over hmode)
      simp only [out, out', run, hparse, hrun, hrun']
      exact ⟨trivial, trivial, trivial, hmade⟩
  · intro input output config reading hready
    have hmode := prefixMode_of_settings hready.settings
    refine ⟨hmode, fun d code hdoc hcode => ?_⟩
    rw [← hmode] at hcode
    exact (run_of_writes hparse (hready.writes_of_printCode hdoc hcode)).2
  · obtain ⟨input, output, config, reading, d, code, hready, hdoc, hcode, hleaves⟩ :=
      exists_ready_of_exit_zero hparse hexit
    rw [prefixMode_of_settings hready.settings] at hcode
    exact ⟨input, output, config, reading, d, code, hready, hdoc, hcode, hleaves⟩

/-- A document with one entry, whose value is a switch. -/
lemma value_of_switch {k v : Text.Points} {key value : Value}
    (hkey : Yaml.scalarValue .str k = .ok key) (hvalue : Yaml.scalarValue .bool v = .ok value) :
    Yaml.Graph.value ⟨#[.map .map [(1, 2)], .scalar .str k, .scalar .bool v], 0⟩ =
      .ok (.dict [(key, value)]) := by
  simp [Yaml.Graph.value, Yaml.Builder.root, Yaml.Builder.item, Yaml.Builder.fillFrom,
    Yaml.Builder.contentsOf, Yaml.Builder.entries, Yaml.Builder.entry, Yaml.Builder.node,
    Yaml.Builder.scalarKey, Yaml.Builder.scalarText?, Yaml.Builder.rootValue, Yaml.Builder.value,
    Yaml.Graph.merged, Yaml.Graph.entries, Yaml.Graph.node, Yaml.Node.tag, Yaml.Tag.isCollection,
    Yaml.putEntry, hkey, hvalue, bind, StateT.bind, StateT.run, Except.bind, pure, StateT.pure,
    Except.pure, get, getThe, MonadStateOf.get, StateT.get, set, StateT.set, modify, modifyGet,
    MonadStateOf.modifyGet, StateT.modifyGet, liftM, monadLift, MonadLift.monadLift, StateT.lift]

/-- One configuration file is empty and the other one turns the HTML off.  An option names a file
for it, and both runs leave the same there. -/
theorem run_eq_of_preview_off :
    let t : FileTree :=
      { files := [([['w'], "a.md".toList], [])], dirs := [[['w']]], cwd := [['w']] }
    let tree (config : List UInt8) : FileTree := t.setFile [['w'], ['c']] config
    let off := encode "html_preview: no"
    let argv := ["a.md", "--config", "c", "--html", "p"]
    let markup : MarkupReader := fun _ => .ok ⟨[], "<p></p>"⟩
    let homes : Homes := fun _ => none
    let out := run homes markup (tree []) argv
    let out' := run homes markup (tree off) argv
    Config.load (tree off) "c" = .ok { htmlPreview := false } ∧
      out'.ending = out.ending ∧ out'.errors = out.errors ∧
      out'.tree.file? [['w'], ['p']] = out.tree.file? [['w'], ['p']] := by
  intro t tree off argv markup homes out out'
  have hempty : Config.load (tree []) "c" = .ok {} := by rfl
  have hload : Config.load (tree off) "c" = .ok { htmlPreview := false } := by
    have htext : (tree off).readText (.ofString "c") = .ok "html_preview: no" := by
      dsimp only [off]
      cbv
    have hgraph : Yaml.Graph.ofScan (.ofText "html_preview: no".toList) = .ok (some
        ⟨#[.map .map [(1, 2)], .scalar .str (Text.Points.ofChars "html_preview".toList),
          .scalar .bool (Text.Points.ofChars "no".toList)], 0⟩) := by decide +kernel
    have hread : Yaml.read "html_preview: no" =
        .ok (.dict [(.str "html_preview", .bool false)]) := by
      rw [Yaml.read, hgraph]
      exact value_of_switch rfl rfl
    rw [Config.load, htext]
    change Config.ofText "c" "html_preview: no" = _
    rw [Config.ofText, hread]
    rfl
  let o : Options := ⟨"a.md", none, some "p", none, none, some "c", false⟩
  have hparse : Options.parse argv = .ok o := rfl
  obtain ⟨hending, -, herrors, hsame⟩ := (run_eq_of_prefixMode_eq homes markup argv).1 _ _ _
    (sameBut_setFile t [['w'], ['c']] [] off) fun o' ho' => by
      obtain rfl : o = o' := Except.ok.inj (hparse.symm.trans ho')
      refine ⟨fun input hinput => ?_, "c", {}, _, rfl, hempty, hload, .inr rfl⟩
      have hexpand : (Path.ofString "a.md").expandUser homes = .ok (.ofString "a.md") := by rfl
      obtain rfl := Except.ok.inj (hexpand.symm.trans (Path.expandUser_eq_ok_iff.2 hinput))
      decide
  exact ⟨hload, hending, herrors, hsame.file?_eq _ (by decide)⟩

end ElementCode.Command
