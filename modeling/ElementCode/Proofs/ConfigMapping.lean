import ElementCode.Config.File
import ElementCode.Proofs.Mapping
import ElementCode.Proofs.ModeWords

/-!
# Configurations from mappings

A configuration is read from a mapping with three fields, each of which may be absent.  A mapping is
accepted when every field that it has a setting for accepts the setting.  Otherwise it is refused
for the first field, in a fixed order, that does not (`Settings.Refused`).  Neither the order of the
entries nor entries under other keys matter.

A refusal shows the setting.  Where this holds a number with too many digits, the refusal cannot be
written and another error takes its place; `Config.ofSettings_of_isMapping` says exactly when.
-/

namespace ElementCode

/-! ## Entries of a mapping -/

namespace Settings

/-- No two entries have the same text as their key. -/
def IsMapping (s : Settings) : Prop :=
  s.Pairwise fun a b => ∀ key, a.1 = .str key → b.1 ≠ .str key

variable {s s' : Settings} {key : String} {given : Setting}

lemma mem_of_get? (h : s.get? key = some given) : (.str key, given) ∈ s := by
  fun_induction get? key s with
  | case1 => exact absurd h (by simp)
  | case2 k v rest hk =>
    obtain rfl := Option.some.inj h
    obtain rfl : k = key := by simpa using hk
    exact List.mem_cons_self
  | case3 k v rest hk ih => exact List.mem_cons_of_mem _ (ih h)
  | case4 entry rest hentry ih => exact List.mem_cons_of_mem _ (ih h)

/-- The setting under a key is that of the entry with this key. -/
lemma get?_eq_some_iff (hs : s.IsMapping) : s.get? key = some given ↔ (.str key, given) ∈ s := by
  refine ⟨mem_of_get?, fun h => ?_⟩
  fun_induction get? key s with
  | case1 => exact absurd h List.not_mem_nil
  | case2 k v rest hk =>
    obtain rfl : k = key := by simpa using hk
    rcases List.mem_cons.1 h with h | h
    · rw [(Prod.mk.inj h).2]
    · exact absurd rfl ((List.pairwise_cons.1 hs).1 _ h k rfl)
  | case3 k v rest hk ih =>
    rcases List.mem_cons.1 h with h | h
    · exact absurd (Value.str.inj (Prod.mk.inj h).1).symm (by simpa using hk)
    · exact ih (List.pairwise_cons.1 hs).2 h
  | case4 entry rest hentry ih =>
    rcases List.mem_cons.1 h with h | h
    · exact absurd h.symm (hentry key given)
    · exact ih (List.pairwise_cons.1 hs).2 h

lemma get?_eq_none_iff (hs : s.IsMapping) :
    s.get? key = none ↔ ∀ given, (.str key, given) ∉ s := by
  rw [Option.eq_none_iff_forall_ne_some]
  exact forall_congr' fun given => not_congr (get?_eq_some_iff hs)

/-- The order of the entries makes no difference to a look-up. -/
lemma get?_eq_of_perm (hs : s.IsMapping) (h : s.Perm s') : s'.get? key = s.get? key := by
  have hs' : s'.IsMapping := by
    refine (h.pairwise_iff ?_).1 hs
    intro a b hab key hb ha
    exact hab key ha hb
  refine Option.ext fun given => ?_
  rw [get?_eq_some_iff hs', get?_eq_some_iff hs, h.mem_iff]

end Settings

/-! ## Fields -/

namespace Setting

/-- The mode that a setting says: it is the mode itself, or a text that spells it. -/
def SaysMode (m : PrefixMode) : Setting → Prop
  | mode m' => m' = m
  | plain (.str s) => m.Spells s.toList
  | plain _ => False

/-- The state of a switch that a setting says.  Numbers are no switches. -/
def SaysSwitch (b : Bool) (given : Setting) : Prop := given = .plain (.bool b)

end Setting

/-- A field of a configuration: its key, the settings that it accepts, and how it refuses others. -/
structure Field where
  key : String
  Accepts : Setting → Prop
  refusal : Setting → ConfigError

/-- The field for the prefix mode. -/
def Field.mode : Field := ⟨"prefix_mode", fun given => ∃ m, given.SaysMode m, .unknownMode⟩

/-- The field for a switch. -/
def Field.switch (key : String) : Field :=
  ⟨key, fun given => ∃ b, given.SaysSwitch b, .notSwitch key⟩

/-- The fields of a configuration, in the order in which they are checked. -/
def Config.fields : List Field := [.mode, .switch "show_details", .switch "html_preview"]

namespace Settings

/-- A mapping has no setting for a field, or one that the field accepts. -/
def Accepts (s : Settings) (f : Field) : Prop := ∀ given, (.str f.key, given) ∈ s → f.Accepts given

/-- A mapping is refused for the first of some fields with a setting that it does not accept. -/
inductive Refused (s : Settings) : List Field → ConfigError → Prop
  | here {f : Field} {fs : List Field} {given : Setting} :
    (.str f.key, given) ∈ s → ¬ f.Accepts given → Refused s (f :: fs) (f.refusal given)
  | later {f : Field} {fs : List Field} {e : ConfigError} :
    s.Accepts f → Refused s fs e → Refused s (f :: fs) e

/-- A mapping gives a field its value: what the setting says, or the default without a setting. -/
def Gives {α : Type} (s : Settings) (key : String) (means : α → Setting → Prop) (absent a : α) :
    Prop :=
  (∀ given, (.str key, given) ∈ s → means a given) ∧
    ((∀ given, (.str key, given) ∉ s) → a = absent)

variable {s : Settings} {f : Field} {fs : List Field} {e e' : ConfigError}

lemma Refused.not_accepts (h : s.Refused fs e) : ¬ ∀ f ∈ fs, s.Accepts f := by
  induction h with
  | here hmem hnot => exact fun hall => hnot (hall _ List.mem_cons_self _ hmem)
  | later _ _ ih => exact fun hall => ih fun f hf => hall f (List.mem_cons_of_mem _ hf)

/-- A mapping is refused for one reason only. -/
lemma Refused.unique (hs : s.IsMapping) (h : s.Refused fs e) (h' : s.Refused fs e') : e = e' := by
  induction h with
  | here hmem hnot =>
    cases h' with
    | here hmem' _ =>
      have hgiven := ((get?_eq_some_iff hs).2 hmem).symm.trans ((get?_eq_some_iff hs).2 hmem')
      rw [Option.some.inj hgiven]
    | later haccepts _ => exact absurd (haccepts _ hmem) hnot
  | later haccepts _ ih =>
    cases h' with
    | here hmem' hnot' => exact absurd (haccepts _ hmem') hnot'
    | later _ h' => exact ih h'

/-! ## Checking the fields one after the other -/

/-- A computation that checks some fields in order: it gives a result when all of them accept and
reports that the mapping is refused for the first one that does not. -/
structure Checks {α : Type} (s : Settings) (fs : List Field) (x : Except SettingError α) :
    Prop where
  accepts : ∀ a, x = .ok a → ∀ f ∈ fs, s.Accepts f
  refuses : ∀ l, x = .error l → ∃ e, s.Refused fs e ∧ l = e.report

lemma checks_pure {α : Type} (a : α) : s.Checks [] (.ok a) where
  accepts := by simp
  refuses := by simp

lemma Checks.bind {α β : Type} {x : Except SettingError α} {g : α → Except SettingError β}
    (hx : s.Checks [f] x) (hg : ∀ a, s.Checks fs (g a)) : s.Checks (f :: fs) (x >>= g) := by
  cases x with
  | error l =>
    refine ⟨fun a ha => absurd ha (by simp [Bind.bind, Except.bind]), fun l' hl => ?_⟩
    obtain rfl := Except.error.inj hl
    obtain ⟨e, he, hreport⟩ := hx.refuses l rfl
    cases he with
    | here hmem hnot => exact ⟨_, .here hmem hnot, hreport⟩
    | later _ hnone => cases hnone
  | ok a =>
    have hf : s.Accepts f := hx.accepts a rfl f List.mem_cons_self
    refine ⟨fun b hb => ?_, fun l hl => ?_⟩
    · rw [List.forall_mem_cons]
      exact ⟨hf, (hg a).accepts b hb⟩
    · obtain ⟨e, he, hreport⟩ := (hg a).refuses l hl
      exact ⟨e, .later hf he, hreport⟩

/-- A computation that checks fields reports a refusal exactly when there is one. -/
lemma Checks.eq_error_iff {α : Type} {x : Except SettingError α} (hx : s.Checks fs x)
    (hs : s.IsMapping) {l : SettingError} :
    x = .error l ↔ ∃ e, s.Refused fs e ∧ l = e.report := by
  refine ⟨hx.refuses l, ?_⟩
  rintro ⟨e, he, rfl⟩
  cases x with
  | ok a => exact absurd (hx.accepts a rfl) he.not_accepts
  | error l =>
    obtain ⟨e', he', rfl⟩ := hx.refuses l rfl
    rw [he'.unique hs he]

lemma Checks.exists_ok_iff {α : Type} {x : Except SettingError α} (hx : s.Checks fs x) :
    (∃ a, x = .ok a) ↔ ∀ f ∈ fs, s.Accepts f := by
  refine ⟨fun ⟨a, ha⟩ => hx.accepts a ha, fun h => ?_⟩
  cases x with
  | ok a => exact ⟨a, rfl⟩
  | error l =>
    obtain ⟨e, he, -⟩ := hx.refuses l rfl
    exact absurd h he.not_accepts

/-! ## The three fields -/

section Reading

variable {α : Type} {read : Setting → Except SettingError α} {means : α → Setting → Prop}
  {absent : α}

/-- A field gets its value from its setting, or the default without one. -/
lemma elim_eq_ok_iff (hs : s.IsMapping) (hread : ∀ given a, read given = .ok a ↔ means a given)
    {key : String} {a : α} :
    (s.get? key).elim (.ok absent) read = .ok a ↔ s.Gives key means absent a := by
  cases hget : s.get? key with
  | none =>
    have hnone := (get?_eq_none_iff hs).1 hget
    refine ⟨fun h => ⟨fun given hmem => absurd hmem (hnone given), fun _ => ?_⟩, fun h => ?_⟩
    · exact (Except.ok.inj h).symm
    · rw [h.2 hnone]
      rfl
  | some given =>
    have hmem := (get?_eq_some_iff hs).1 hget
    rw [Option.elim_some, hread]
    refine ⟨fun h => ⟨fun given' hmem' => ?_, fun hnone => absurd hmem (hnone given)⟩,
      fun h => h.1 given hmem⟩
    have hsame := hget.symm.trans ((get?_eq_some_iff hs).2 hmem')
    rwa [← Option.some.inj hsame]

/-- Reading a field checks it, when it reads exactly the settings that the field accepts. -/
lemma checks_elim (hs : s.IsMapping) (hread : ∀ given a, read given = .ok a ↔ means a given)
    (haccepts : ∀ given, f.Accepts given ↔ ∃ a, means a given)
    (hrefusal : ∀ given l, read given = .error l → l = (f.refusal given).report) :
    s.Checks [f] ((s.get? f.key).elim (.ok absent) read) := by
  cases hget : s.get? f.key with
  | none =>
    refine ⟨fun a _ => ?_, fun l hl => absurd hl (by simp)⟩
    rw [List.forall_mem_singleton]
    exact fun given hmem => absurd hmem ((get?_eq_none_iff hs).1 hget given)
  | some given =>
    rw [Option.elim_some]
    refine ⟨fun a ha => ?_, fun l hl => ?_⟩
    · rw [List.forall_mem_singleton]
      intro given' hmem
      have hsame := hget.symm.trans ((get?_eq_some_iff hs).2 hmem)
      rw [← Option.some.inj hsame, haccepts]
      exact ⟨a, (hread given a).1 ha⟩
    · refine ⟨_, .here (mem_of_get? hget) ?_, hrefusal given l hl⟩
      rw [haccepts]
      rintro ⟨a, ha⟩
      rw [← hread, hl] at ha
      exact absurd ha (by simp)

end Reading

/-- The state of a switch, from its setting. -/
def readSwitch (key : String) : Setting → Except SettingError Bool
  | .plain (.bool b) => .ok b
  | given => .error (ConfigError.notSwitch key given).report

lemma switch_eq_elim (key : String) (absent : Bool) :
    s.switch key absent = (s.get? key).elim (.ok absent) (readSwitch key) := by
  unfold switch readSwitch
  cases s.get? key with
  | none => rfl
  | some given => rcases given with m | v <;> [rfl; cases v <;> rfl]

lemma readSwitch_eq_ok_iff (key : String) (given : Setting) (b : Bool) :
    readSwitch key given = .ok b ↔ given.SaysSwitch b := by
  unfold readSwitch Setting.SaysSwitch
  split
  · simp
  · next hnot => exact iff_of_false (by simp) (hnot b)

lemma eq_of_readSwitch_eq_error (key : String) (given : Setting) (l : SettingError)
    (h : readSwitch key given = .error l) : l = (ConfigError.notSwitch key given).report := by
  unfold readSwitch at h
  split at h
  · exact absurd h (by simp)
  · exact (Except.error.inj h).symm

lemma prefixMode_eq_elim :
    s.prefixMode = (s.get? "prefix_mode").elim (.ok .bare) PrefixMode.ofSetting := by
  rw [prefixMode]
  cases s.get? "prefix_mode" <;> rfl

lemma ofSetting_eq_ok_iff (given : Setting) (m : PrefixMode) :
    PrefixMode.ofSetting given = .ok m ↔ given.SaysMode m := by
  unfold PrefixMode.ofSetting Setting.SaysMode
  split
  · simp
  · next text =>
    refine Iff.trans ?_ (PrefixMode.ofWord?_eq_some_iff text m)
    cases PrefixMode.ofWord? text <;> simp
  · simp

lemma eq_of_ofSetting_eq_error (given : Setting) (l : SettingError)
    (h : PrefixMode.ofSetting given = .error l) : l = (ConfigError.unknownMode given).report := by
  unfold PrefixMode.ofSetting at h
  split at h
  · exact absurd h (by simp)
  · split at h
    · exact absurd h (by simp)
    · exact (Except.error.inj h).symm
  · exact (Except.error.inj h).symm

/-- Reading a configuration checks its fields in order. -/
lemma checks_ofSettings (hs : s.IsMapping) : s.Checks Config.fields (Config.ofSettings s) := by
  have hmode : s.Checks [.mode] s.prefixMode := by
    rw [prefixMode_eq_elim]
    exact checks_elim hs ofSetting_eq_ok_iff (fun _ => Iff.rfl) eq_of_ofSetting_eq_error
  have hswitch : ∀ key absent, s.Checks [.switch key] (s.switch key absent) := by
    intro key absent
    rw [switch_eq_elim]
    exact checks_elim hs (readSwitch_eq_ok_iff key) (fun _ => Iff.rfl)
      (eq_of_readSwitch_eq_error key)
  exact hmode.bind fun _ => (hswitch _ _).bind fun _ => (hswitch _ _).bind fun _ => checks_pure _

/-- Every field of a configuration is given by the mapping. -/
lemma ofSettings_eq_ok_iff (hs : s.IsMapping) (c : Config) :
    Config.ofSettings s = .ok c ↔
      s.Gives "prefix_mode" (fun m given => given.SaysMode m) .bare c.prefixMode ∧
      s.Gives "show_details" (fun b given => given.SaysSwitch b) false c.showDetails ∧
      s.Gives "html_preview" (fun b given => given.SaysSwitch b) true c.htmlPreview := by
  rw [← elim_eq_ok_iff hs ofSetting_eq_ok_iff, ← elim_eq_ok_iff hs (readSwitch_eq_ok_iff _),
    ← elim_eq_ok_iff hs (readSwitch_eq_ok_iff _), ← prefixMode_eq_elim, ← switch_eq_elim,
    ← switch_eq_elim, Config.ofSettings]
  constructor
  · intro h
    obtain ⟨m, hm, h⟩ := exists_of_bind_eq_ok h
    obtain ⟨b, hb, h⟩ := exists_of_bind_eq_ok h
    obtain ⟨b', hb', h⟩ := exists_of_bind_eq_ok h
    obtain rfl := Except.ok.inj h
    exact ⟨hm, hb, hb'⟩
  · rintro ⟨hm, hb, hb'⟩
    rw [hm, hb, hb']
    rfl

/-! ## Entries that do not matter -/

/-- An entry under the key of a field. -/
def isFieldEntry (entry : Value × Setting) : Bool :=
  match entry.1 with
  | .str key => key ∈ Config.fields.map Field.key
  | _ => false

lemma get?_filter_isFieldEntry {key : String} (hkey : key ∈ Config.fields.map Field.key) :
    get? key (s.filter isFieldEntry) = s.get? key := by
  fun_induction get? key s with
  | case1 => rfl
  | case2 k v rest hk =>
    obtain rfl : k = key := by simpa using hk
    rw [List.filter_cons_of_pos (by simpa [isFieldEntry] using hkey), get?, if_pos hk]
  | case3 k v rest hk ih =>
    by_cases hfield : isFieldEntry (.str k, v)
    · rw [List.filter_cons_of_pos hfield, get?, if_neg hk, ih]
    · rw [List.filter_cons_of_neg hfield, ih]
  | case4 entry rest hentry ih =>
    have hfield : ¬ isFieldEntry entry := by
      unfold isFieldEntry
      split
      · next k hk => exact (hentry k entry.2 (Prod.ext hk rfl)).elim
      · simp
    rw [List.filter_cons_of_neg hfield, ih]

lemma ofSettings_congr {s' : Settings}
    (h : ∀ key ∈ Config.fields.map Field.key, s'.get? key = s.get? key) :
    Config.ofSettings s' = Config.ofSettings s := by
  simp only [Config.ofSettings, prefixMode, switch]
  rw [h "prefix_mode" (by simp [Config.fields, Field.mode]),
    h "show_details" (by simp [Config.fields, Field.switch]),
    h "html_preview" (by simp [Config.fields, Field.switch])]

/-- Mappings with the same entries for the fields, in whatever order and among whatever other
entries, give the same configuration or are refused in the same way. -/
lemma ofSettings_eq_of_perm {s' : Settings} (hs : s.IsMapping)
    (h : (s.filter isFieldEntry).Perm (s'.filter isFieldEntry)) :
    Config.ofSettings s' = Config.ofSettings s := by
  refine ofSettings_congr fun key hkey => ?_
  have hfilter : IsMapping (s.filter isFieldEntry) := List.Pairwise.filter _ hs
  rw [← get?_filter_isFieldEntry hkey, ← get?_filter_isFieldEntry (s := s) hkey,
    get?_eq_of_perm hfilter h]

end Settings

/-! ## What a mapping comes to -/

/-- Every refusal starts with the key of its field. -/
lemma Field.exists_message_eq {f : Field} (hf : f ∈ Config.fields) (given : Setting) :
    ∃ rest, (f.refusal given).message = f.key ++ " must be " ++ rest := by
  have hswitch : ∀ key, ∃ rest, (ConfigError.notSwitch key given).message =
      key ++ " must be " ++ rest := by
    intro key
    have hsplit : " must be true or false, got " = " must be " ++ "true or false, got " := by
      decide
    refine ⟨"true or false, got " ++ given.display, ?_⟩
    change key ++ " must be true or false, got " ++ given.display = _
    simp only [hsplit, String.append_assoc]
  simp only [Config.fields, List.mem_cons, List.not_mem_nil, or_false] at hf
  rcases hf with rfl | rfl | rfl
  · have hsplit : "prefix_mode must be one of " = "prefix_mode" ++ " must be " ++ "one of " := by
      decide
    refine ⟨"one of " ++ ", ".intercalate (PrefixMode.all.map PrefixMode.word) ++ ", got " ++
      given.display, ?_⟩
    change "prefix_mode must be one of " ++ ", ".intercalate (PrefixMode.all.map PrefixMode.word) ++
      ", got " ++ given.display = "prefix_mode" ++ " must be " ++ _
    simp only [hsplit, String.append_assoc]
  · exact hswitch _
  · exact hswitch _

namespace Config

/-- A file that holds a mapping gives what the mapping gives. -/
lemma ofText_eq_ofSettings {path text : String} {entries : List (Value × Value)}
    (h : Yaml.read text = .ok (.dict entries)) :
    ofText path text =
      (ofSettings (entries.map fun (k, v) => (k, .plain v))).mapError .ofReport := by
  rw [ofText, h]
  cases entries <;> rfl

variable {s : Settings}

/-- **What a mapping comes to.**

* It gives a configuration exactly when each field accepts its setting, if there is one.  The
  configuration has what the settings say and the defaults elsewhere.
* Otherwise the report is about the first field that does not accept.  It is the refusal for this
  field, which names it, unless the setting cannot be shown.
* A text that says a mode holds nothing but white space and letters of ASCII.
* Only the entries for the fields matter, and not their order. -/
theorem ofSettings_of_isMapping (hs : s.IsMapping) :
    (∀ c, ofSettings s = .ok c ↔
      s.Gives "prefix_mode" (fun m given => given.SaysMode m) .bare c.prefixMode ∧
      s.Gives "show_details" (fun b given => given.SaysSwitch b) false c.showDetails ∧
      s.Gives "html_preview" (fun b given => given.SaysSwitch b) true c.htmlPreview) ∧
    ((∃ c, ofSettings s = .ok c) ↔ ∀ f ∈ fields, s.Accepts f) ∧
    (∀ l, ofSettings s = .error l ↔
      ∃ e, s.Refused fields e ∧ l = if e.isShowable then .refused e else .unshowable) ∧
    (∀ f ∈ fields, ∀ given, ∃ rest,
      (f.refusal given).message = f.key ++ " must be " ++ rest) ∧
    (∀ text m, (Setting.plain (.str text)).SaysMode m →
      ∀ c ∈ text.toList, Text.isBlank c ∨ c.isAlpha) ∧
    (∀ s', (s.filter Settings.isFieldEntry).Perm (s'.filter Settings.isFieldEntry) →
      ofSettings s' = ofSettings s) ∧
    ∀ path text entries, Yaml.read text = .ok (.dict entries) →
      s = entries.map (fun (k, v) => (k, .plain v)) →
      ofText path text = (ofSettings s).mapError .ofReport := by
  have hchecks := Settings.checks_ofSettings hs
  refine ⟨Settings.ofSettings_eq_ok_iff hs, hchecks.exists_ok_iff,
    fun l => hchecks.eq_error_iff hs, fun f hf => Field.exists_message_eq hf,
    fun text m hmode => PrefixMode.Spells.isBlank_or_isAlpha hmode,
    fun s' hperm => Settings.ofSettings_eq_of_perm hs hperm, ?_⟩
  rintro path text entries hread rfl
  exact ofText_eq_ofSettings hread

/-- A number is no switch, while a mode may be spelled with white space of any kind around it. -/
theorem ofSettings_of_number_for_switch :
    let s : Settings := [(.int 1, .plain .null), (.str "html_preview", .plain (.int 1)),
      (.str "theme", .plain (.bool true)), (.str "prefix_mode", .plain (.str "\u00a0BaRe\u3000"))]
    s.IsMapping ∧ s.Refused fields (.notSwitch "html_preview" (.plain (.int 1))) ∧
      ofSettings s = .error (.refused (.notSwitch "html_preview" (.plain (.int 1)))) := by
  intro s
  have hs : s.IsMapping := by simp [s, Settings.IsMapping]
  have hspells : PrefixMode.bare.Spells "\u00a0BaRe\u3000".toList := by
    refine ⟨['\u00a0'], ['B', 'a', 'R', 'e'], ['\u3000'], by simp, ?_, by decide⟩
    simp only [List.cons_append, List.nil_append, List.forall_mem_cons]
    exact ⟨by decide, by decide, by simp⟩
  have hmode : s.Accepts .mode := by
    intro given hmem
    obtain rfl : given = .plain (.str "\u00a0BaRe\u3000") := by simpa [s, Field.mode] using hmem
    exact ⟨.bare, hspells⟩
  have hdetails : s.Accepts (.switch "show_details") := by
    intro given hmem
    simp [s, Field.switch] at hmem
  have hrefused : s.Refused fields (.notSwitch "html_preview" (.plain (.int 1))) := by
    refine .later hmode (.later hdetails (.here (f := .switch "html_preview") ?_ ?_))
    · simp [s, Field.switch]
    · simp [Field.switch, Setting.SaysSwitch]
  refine ⟨hs, hrefused, ((ofSettings_of_isMapping hs).2.2.1 _).2 ⟨_, hrefused, ?_⟩⟩
  exact (if_pos ((Value.isShowable_int_iff 1).2 (Nat.one_lt_pow (by decide) (by decide)))).symm

/-- A refusal that would show a number with a digit too many is not reported. -/
theorem ofSettings_of_long_number :
    let given : Setting := .plain (.int (10 ^ Display.digitLimit))
    let s : Settings := [(.str "show_details", given)]
    s.IsMapping ∧ s.Refused fields (.notSwitch "show_details" given) ∧
      ofSettings s = .error .unshowable := by
  intro given s
  have hmode : s.Accepts .mode := by
    intro given hmem
    simp [s, Field.mode] at hmem
  have hrefused : s.Refused fields (.notSwitch "show_details" given) := by
    refine .later hmode (.here (f := .switch "show_details") List.mem_cons_self ?_)
    simp [given, Field.switch, Setting.SaysSwitch]
  have hs : s.IsMapping := List.pairwise_singleton _ _
  have hlong : ¬ (ConfigError.notSwitch "show_details" given).isShowable :=
    Value.not_isShowable_int_long
  refine ⟨hs, hrefused, ((Settings.checks_ofSettings hs).eq_error_iff hs).2 ⟨_, hrefused, ?_⟩⟩
  exact (if_neg hlong).symm

end Config

end ElementCode
