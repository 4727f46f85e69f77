import TableScript.Program
import TableScript.Proofs.Loading
import TableScript.Proofs.Naming
import TableScript.Proofs.Reporting

/-!
# Settings are checked once

The settings of a dialect stand in statements as they are. They are checked when a configuration is
loaded, and default settings are plain, so whatever dialect is asked for, the resolved one passes
the check again. The only step that refuses settings is the naming of a database; every other step
`SparesSettings`, and so does this one where the settings are plain.

Results:
* `SparesSettings.bind`, `SparesSettings.mapM`: steps that spare settings do so in a row.
* `Command.sparesSettings_run`: with plain settings, every command spares them.
* `Configuration.checkSettings_of_load`: a configuration that is loaded has plain settings, and
  `Configuration.ofText_of_firstUnplain`: any other is refused for its first setting that is not.
* `Configuration.kind_resolveDialect`, `Configuration.checkSettings_resolveDialect`: the resolved
  dialect is of the kind that is asked for, and has plain settings.
* `loaded_settings_hold`: so no run of the program that loads the configuration fails because of a
  setting, and a database is refused exactly for its name.
-/

namespace TableScript

/-! ## Steps that fail for other reasons -/

/-- It does not fail because a setting is not plain. -/
def SparesSettings {α : Type} (x : Except Error α) : Prop :=
  ∀ setting value, x ≠ .error (.invalidSetting setting value)

namespace SparesSettings

variable {α β : Type} {x : Except Error α} {g : α → Except Error β}

theorem ok (a : α) : SparesSettings (.ok a) := nofun

theorem bind (hx : SparesSettings x) (hg : ∀ a, x = .ok a → SparesSettings (g a)) :
    SparesSettings (x >>= g) := by
  intro setting value h
  rcases bind_eq_error_iff.mp h with hfirst | ⟨a, ha, hsecond⟩
  · exact hx setting value hfirst
  · exact hg a ha setting value hsecond

theorem map {f : α → β} (hx : SparesSettings x) : SparesSettings (x.map f) :=
  fun setting value h => hx setting value (map_eq_error_iff.mp h)

theorem mapM (hg : ∀ a, SparesSettings (g a)) (xs : List α) : SparesSettings (xs.mapM g) := by
  intro setting value h
  obtain ⟨a, -, ha⟩ := exists_of_mapM_eq_error h
  exact hg a setting value ha

/-- A failure that is told in other words spares the settings if the words do. -/
theorem mapError {ε : Type} {y : Except ε α} {f : ε → Error}
    (hf : ∀ e setting value, f e ≠ .invalidSetting setting value) :
    SparesSettings (y.mapError f) := by
  intro setting value h
  obtain ⟨e, -, he⟩ := mapError_eq_error_iff.mp h
  exact hf e setting value he

end SparesSettings

/-! ## Rendering and loading -/

theorem RecordDescription.sparesSettings_analyze (r : RecordDescription) :
    SparesSettings r.analyze := by
  have hcolumn : ∀ f, SparesSettings (column f) := by
    intro f
    refine SparesSettings.bind ?_ fun type _ => .ok _
    unfold FieldType.parse
    split
    · exact .ok _
    · exact nofun
  exact (SparesSettings.mapM hcolumn r.fields).bind fun columns _ => .mapError fun _ _ _ => nofun

namespace Flavor

variable (f : Flavor)

theorem sparesSettings_physicalType (type : FieldType) : SparesSettings (f.physicalType type) := by
  unfold physicalType
  split
  · exact .ok _
  · exact nofun

theorem sparesSettings_renderedTable (r : RecordDescription) :
    SparesSettings (f.renderedTable r) := by
  have hcolumn : ∀ c, SparesSettings (f.columnClause c) := fun c =>
    (f.sparesSettings_physicalType c.type).bind fun physical _ => .ok _
  have hclauses : ∀ s, SparesSettings (f.clauses s) := fun s =>
    (SparesSettings.mapM hcolumn s.columns).bind fun columns _ => .ok _
  exact (r.sparesSettings_analyze.bind fun s _ => (hclauses s).map).map

end Flavor

theorem Description.sparesSettings_loadAll (files : Files) (paths : List String) :
    SparesSettings (loadAll files paths).result := by
  have hparse : ∀ path content, SparesSettings (parse path content) := by
    intro path content
    unfold parse
    split
    · exact nofun
    · exact .mapError fun _ _ _ => nofun
  have hload : ∀ path, SparesSettings (load files path).result := by
    intro path
    rw [result_load]
    exact SparesSettings.bind (.mapError fun _ _ _ => nofun) fun content _ => hparse path content
  rw [result_loadAll]
  exact (SparesSettings.mapM hload paths).map

/-! ## Plain settings -/

/-- With plain settings, a database is refused exactly for its name. -/
theorem Database.named_eq_error_iff {d : Dialect} (hsettings : d.flavor.checkSettings = .ok ())
    (name : String) : (∃ e, named d name = .error e) ↔ Identifier.isPlain name = false := by
  rw [named_of_checkSettings hsettings]
  split
  · next hname => simp [hname]
  · next hname => exact ⟨fun _ => Bool.eq_false_iff.mpr hname, fun _ => ⟨_, rfl⟩⟩

theorem Database.sparesSettings_named {d : Dialect} (hsettings : d.flavor.checkSettings = .ok ())
    (name : String) : SparesSettings (named d name) := by
  rw [named_of_checkSettings hsettings]
  split
  · exact .ok _
  · intro setting value h
    cases h

section Commands

variable {ctx : Context}

theorem Context.sparesSettings_databaseName (asked : Option String) :
    SparesSettings (ctx.databaseName asked) := by
  unfold databaseName
  split
  · exact .ok _
  · exact nofun

/-- **With plain settings, every command spares them.** -/
theorem Command.sparesSettings_run (hsettings : ctx.dialect.flavor.checkSettings = .ok ())
    (files : Files) (command : Command) : SparesSettings (command.run ctx files).result := by
  have hloaded := Description.sparesSettings_loadAll files
  have hdatabase := ctx.sparesSettings_databaseName
  have hnamed := Database.sparesSettings_named hsettings
  have htables := SparesSettings.mapM ctx.dialect.flavor.sparesSettings_renderedTable
  cases command with
  | createTable paths =>
    rw [run, result_runCreateTable]
    exact (hloaded paths).bind fun records _ => (htables records).bind fun tables _ => .ok _
  | init asked paths =>
    rw [run, result_runInit]
    exact (hdatabase asked).bind fun name _ => (hloaded paths).bind fun records _ =>
      (hnamed name).bind fun db _ => (htables records).bind fun tables _ => .ok _
  | drop asked =>
    rw [run, result_runDrop]
    exact (hdatabase asked).bind fun name _ => (hnamed name).bind fun db _ => .ok _
  | types =>
    have htypes : ∀ type, SparesSettings (do
        return (type, ← ctx.dialect.flavor.physicalType type)) := fun type =>
      (ctx.dialect.flavor.sparesSettings_physicalType type).bind fun physical _ => .ok _
    exact (SparesSettings.mapM htypes FieldType.all).bind fun rows _ => .ok _

end Commands

/-! ## From the configuration to the commands -/

theorem Dialect.checkSettings_ofKind (kind : DialectKind) :
    (Dialect.ofKind kind).flavor.checkSettings = .ok () := by
  cases kind <;> rfl

@[simp] theorem Dialect.kind_ofKind (kind : DialectKind) : (Dialect.ofKind kind).kind = kind := by
  cases kind <;> rfl

namespace Configuration

/-- A configuration that is loaded has plain settings. -/
theorem checkSettings_of_load {files : Files} {path : String} {c : Configuration}
    (h : (load files path).result = .ok (some c)) :
    c.dialect.toDialect.flavor.checkSettings = .ok () := by
  rw [result_load] at h
  split at h
  · obtain ⟨content, -, htext⟩ := bind_eq_ok_iff.mp h
    obtain ⟨loaded, hloaded, heq⟩ := map_eq_ok_iff.mp htext
    obtain rfl := Option.some.inj heq
    obtain ⟨parsed, -, hparsed⟩ := bind_eq_ok_iff.mp hloaded
    obtain ⟨⟨⟩, hsettings, hsame⟩ := bind_eq_ok_iff.mp hparsed
    obtain rfl := Except.ok.inj hsame
    exact hsettings
  · cases h

/-- A configuration is refused for its first setting that is not plain. -/
theorem ofText_of_firstUnplain {path content : String} {c : Configuration} {s : String × String}
    (hparse : parse content = .ok c) (hs : FirstUnplain c.dialect.settings s) :
    ofText path content = .error (.invalidSetting s.1 s.2) := by
  have hcheck : c.dialect.check = .error (.invalidSetting s.1 s.2) :=
    Flavor.checkSettings_of_firstUnplain (by rwa [DialectSettings.settings_toDialect])
  rw [ofText, hparse]
  show (c.dialect.check >>= fun _ => pure c) = _
  rw [hcheck, error_bind]

/-- The dialect of a configuration, or the default dialect where there is none. -/
def givenDialect (c? : Option Configuration) : Dialect :=
  (c?.map fun c => c.dialect.toDialect).getD default

/-- The configured dialect is used unless another kind is asked for, which then has its defaults. -/
theorem resolveDialect_eq (c? : Option Configuration) (asked : Option DialectKind) :
    resolveDialect c? asked =
      if asked.getD (givenDialect c?).kind = (givenDialect c?).kind then givenDialect c?
      else .ofKind (asked.getD (givenDialect c?).kind) := by
  cases c? with
  | none => rcases asked with _ | _ | _ | _ <;> rfl
  | some c =>
    cases asked with
    | none => simp [resolveDialect, givenDialect]
    | some kind =>
      by_cases hkind : kind = c.dialect.kind
      · simp [resolveDialect, givenDialect, hkind]
      · simp [resolveDialect, givenDialect, hkind, Ne.symm hkind]

theorem kind_resolveDialect (c? : Option Configuration) (asked : Option DialectKind) :
    (resolveDialect c? asked).kind = asked.getD (givenDialect c?).kind := by
  rw [resolveDialect_eq]
  split
  · next h => exact h.symm
  · exact Dialect.kind_ofKind _

/-- **Whatever is asked for, the dialect beside a loaded configuration has plain settings.** -/
theorem checkSettings_resolveDialect {files : Files} {path : String} {c? : Option Configuration}
    (h : (load files path).result = .ok c?) (asked : Option DialectKind) :
    (resolveDialect c? asked).flavor.checkSettings = .ok () := by
  rw [resolveDialect_eq]
  split
  · cases c? with
    | none => exact Dialect.checkSettings_ofKind .mysql
    | some c => exact checkSettings_of_load h
  · exact Dialect.checkSettings_ofKind _

end Configuration

/-- **Settings hold once they are loaded.** Beside a loaded configuration, or none, the resolved
dialect is of the kind that is asked for, else of the configured kind; it has the configured settings
if it is of the configured kind, else the defaults; and these pass the check, so every one of them is
plain. So no run that loads the configuration fails because of a setting, and a database is refused
exactly for its name. -/
theorem loaded_settings_hold {files : Files} {path : String} {c? : Option Configuration}
    (hload : (Configuration.load files path).result = .ok c?) (asked : Option DialectKind) :
    let given := Configuration.givenDialect c?
    let d := Configuration.resolveDialect c? asked
    d.flavor.checkSettings = .ok () ∧
      (∀ s ∈ d.flavor.settings, Identifier.Plain s.2) ∧
      d.kind = asked.getD given.kind ∧
      (∀ c, c? = some c →
        given.kind = c.dialect.kind ∧ given.flavor.settings = c.dialect.settings) ∧
      ((asked = none ∨ asked = some given.kind) → d = given) ∧
      (∀ kind, asked = some kind → kind ≠ given.kind → d = Dialect.ofKind kind) ∧
      (∀ i : CommandLine.Invocation, i.config = path → i.dialect = asked →
        ∀ setting value, (i.run files).result ≠ .error (.invalidSetting setting value)) ∧
      ∀ name, (∃ e, Database.named d name = .error e) ↔ Identifier.isPlain name = false := by
  intro given d
  have hsettings : d.flavor.checkSettings = .ok () :=
    Configuration.checkSettings_resolveDialect hload asked
  have hd := Configuration.resolveDialect_eq c? asked
  refine ⟨hsettings, Flavor.checkSettings_eq_ok_iff.mp hsettings,
    Configuration.kind_resolveDialect c? asked, ?_, ?_, ?_, ?_,
    Database.named_eq_error_iff hsettings⟩
  · rintro c rfl
    exact ⟨c.dialect.kind_toDialect, c.dialect.settings_toDialect⟩
  · rintro (rfl | rfl)
    · exact hd.trans (if_pos rfl)
    · exact hd.trans (if_pos rfl)
  · rintro kind rfl hkind
    exact hd.trans (if_neg hkind)
  · rintro i rfl rfl
    have hcommand : SparesSettings
        (i.command.run (Context.ofConfiguration c? i.dialect) files).result :=
      Command.sparesSettings_run hsettings files i.command
    unfold CommandLine.Invocation.run
    simp only [Logged.result_bind, hload, ok_bind]
    exact hcommand.bind fun report _ => .ok _

/-- A configuration with an encoding of its own. -/
def encodedConfiguration (encoding : String) : String :=
  "\x7b\"dialect\":\x7b\"type\":\"postgres\",\"encoding\":\"" ++ encoding ++ "\"\x7d\x7d"

/-- The file system in which every file holds such a configuration. -/
def encodedFiles (encoding : String) : Files :=
  fun _ => .file (encodedConfiguration encoding).toUTF8

theorem result_load_encodedFiles (encoding path : String) :
    (Configuration.load (encodedFiles encoding) path).result =
      (Configuration.ofText path (encodedConfiguration encoding)).map some := by
  have hread : (encodedFiles encoding).read path = .ok (encodedConfiguration encoding) :=
    Files.read_of_text rfl
  have hthere : (encodedFiles encoding).has path = true := rfl
  rw [Configuration.result_load, if_pos hthere, hread]
  rfl

/-- A dialect of the configured kind keeps the configured encoding, one of another kind has its own
defaults, and a database with a hyphen in its name is refused. An encoding that would end the
statement is refused with the configuration. -/
theorem loaded_settings_hold_for_latin :
    let c : Configuration := ⟨.postgres "LATIN1", none⟩
    (Configuration.load (encodedFiles "LATIN1") Configuration.defaultPath).result = .ok (some c) ∧
      Configuration.resolveDialect (some c) (some .postgres) = .postgres "LATIN1" ∧
      Identifier.Plain "LATIN1" ∧
      Configuration.resolveDialect (some c) (some .mysql) =
        .mysql "utf8mb4" "utf8mb4_unicode_ci" ∧
      (∃ e, Database.named (.postgres "LATIN1") "my-app" = .error e) ∧
      (Configuration.load (encodedFiles "UTF8'; DROP DATABASE prod; --")
          Configuration.defaultPath).result =
        .error (.invalidSetting "encoding" "UTF8'; DROP DATABASE prod; --") := by
  intro c
  have hparse : Configuration.parse (encodedConfiguration "LATIN1") = .ok c := rfl
  have hload : (Configuration.load (encodedFiles "LATIN1") Configuration.defaultPath).result =
      .ok (some c) := by
    rw [result_load_encodedFiles, Configuration.ofText, hparse]
    rfl
  obtain ⟨-, hplain, -, -, hgiven, -, -, hnamed⟩ := loaded_settings_hold hload (some .postgres)
  obtain ⟨-, -, -, -, -, hother, -, -⟩ := loaded_settings_hold hload (some .mysql)
  refine ⟨hload, hgiven (.inr rfl), hplain ("encoding", "LATIN1") List.mem_cons_self,
    hother .mysql rfl (by decide), (hnamed "my-app").mpr (by decide), ?_⟩
  have hhostile : Configuration.parse (encodedConfiguration "UTF8'; DROP DATABASE prod; --") =
      .ok ⟨.postgres "UTF8'; DROP DATABASE prod; --", none⟩ := rfl
  rw [result_load_encodedFiles, Configuration.ofText_of_firstUnplain hhostile
    ⟨[], [], rfl, nofun, by decide⟩]
  rfl

end TableScript
