import TableScript.Program
import TableScript.Proofs.Loading
import TableScript.Proofs.Reporting
import TableScript.Proofs.Rendering

/-!
# Which error is reported

Tables are rendered in two passes: all files are loaded, and only then are their records analyzed.
So a file that does not load is reported before any record, wherever the record stands, and of
several faults of one kind the first is reported. `Holds` and `Refused` say what is in one file,
`Renders` what becomes of one record.

Results:
* `Description.loadAll_eq_ok_iff`, `Description.loadAll_eq_error_iff`: files are loaded exactly when
  each holds records, and else the first that does not is reported.
* `Flavor.Complete.mapM_renderedTable_eq_error_iff`: the first record that cannot be analyzed is
  reported.
* `Command.createTable_eq_ok_iff`, `Command.createTable_eq_error_iff`: both passes together.
* `Program.run_of_error`: a command that fails leaves nothing on the output and ends with code 1.
* `tables_all_or_nothing`: either every record gets its table, or the first error is reported and
  nothing else.
-/

namespace TableScript

/-! ## Files that load -/

namespace Description

/-- The file is a text, and the text describes these records. -/
def Holds (files : Files) (path : String) (records : List RecordDescription) : Prop :=
  ∃ text : String, (files path).bytes = .ok text.toUTF8 ∧ parse path text = .ok records

/-- Why there are no records in a file: it cannot be read as a text, or its text describes none. -/
inductive Refused (files : Files) (path : String) : Error → Prop where
  | unreadable {fault : ReadFault} :
      files.read path = .error fault → Refused files path (.unreadableFile path fault)
  | undescribed {text : String} {e : Error} :
      (files path).bytes = .ok text.toUTF8 → parse path text = .error e → Refused files path e

variable {files : Files} {path : String} {paths : List String} {records : List RecordDescription}
  {e : Error}

theorem load_eq_ok_iff : (load files path).result = .ok records ↔ Holds files path records := by
  unfold Holds
  rw [result_load, bind_eq_ok_iff]
  simp only [mapError_eq_ok_iff, Files.read_eq_ok_iff]

theorem load_eq_error_iff : (load files path).result = .error e ↔ Refused files path e := by
  rw [result_load, bind_eq_error_iff]
  constructor
  · rintro (h | ⟨text, hread, hparse⟩)
    · obtain ⟨fault, hfault, rfl⟩ := mapError_eq_error_iff.mp h
      exact .unreadable hfault
    · exact .undescribed (Files.read_eq_ok_iff.mp (mapError_eq_ok_iff.mp hread)) hparse
  · rintro (hfault | ⟨hfile, hparse⟩)
    · exact .inl (mapError_eq_error_iff.mpr ⟨_, hfault, rfl⟩)
    · exact .inr ⟨_, mapError_eq_ok_iff.mpr (Files.read_eq_ok_iff.mpr hfile), hparse⟩

theorem Holds.unique {records' : List RecordDescription} (h : Holds files path records)
    (h' : Holds files path records') : records = records' :=
  Except.ok.inj ((load_eq_ok_iff.mpr h).symm.trans (load_eq_ok_iff.mpr h'))

theorem Holds.not_refused (h : Holds files path records) (e : Error) : ¬ Refused files path e := by
  intro hrefused
  have hload := load_eq_ok_iff.mpr h
  rw [load_eq_error_iff.mpr hrefused] at hload
  cases hload

/-- **Files are loaded exactly when each holds records**, which then follow each other. -/
theorem loadAll_eq_ok_iff :
    (loadAll files paths).result = .ok records ↔
      ∃ groups, List.Forall₂ (Holds files) paths groups ∧ groups.flatten = records := by
  rw [result_loadAll, map_eq_ok_iff]
  refine exists_congr fun groups => and_congr_left fun _ => ?_
  rw [mapM_eq_ok_iff_forall₂]
  simp only [load_eq_ok_iff]

/-- **The first file that does not load is reported**, whatever the records in front of it are. -/
theorem loadAll_eq_error_iff :
    (loadAll files paths).result = .error e ↔
      ∃ pre path post, paths = pre ++ path :: post ∧
        (∀ p ∈ pre, ∃ records, Holds files p records) ∧ Refused files path e := by
  rw [result_loadAll, map_eq_error_iff, mapM_eq_error_iff]
  simp only [load_eq_ok_iff, load_eq_error_iff]

end Description

/-! ## Records that are rendered -/

namespace Flavor

/-- The table has the name of the record and its statement. -/
def Renders (f : Flavor) (r : RecordDescription) (t : RenderedTable) : Prop :=
  t.table = r.name ∧ f.createTableFrom (.record r) = .ok t.statement

variable {f : Flavor} {r : RecordDescription} {e : Error}

theorem renderedTable_eq_ok_iff {t : RenderedTable} :
    f.renderedTable r = .ok t ↔ f.Renders r t := by
  unfold renderedTable Renders
  rw [map_eq_ok_iff]
  constructor
  · rintro ⟨text, htext, rfl⟩
    exact ⟨rfl, htext⟩
  · rintro ⟨hname, htext⟩
    exact ⟨t.statement, htext, by rw [← hname]⟩

theorem mapM_renderedTable_eq_ok_iff {records : List RecordDescription}
    {tables : List RenderedTable} :
    records.mapM f.renderedTable = .ok tables ↔ List.Forall₂ f.Renders records tables := by
  rw [mapM_eq_ok_iff_forall₂]
  simp only [renderedTable_eq_ok_iff]

/-- A complete dialect renders exactly the records that can be analyzed. -/
theorem Complete.exists_renderedTable_iff (h : f.Complete) :
    (∃ t, f.renderedTable r = .ok t) ↔ ∃ s, r.analyze = .ok s := by
  constructor
  · rintro ⟨t, ht⟩
    obtain ⟨s, hs, -⟩ := h.createTableFrom_eq_ok_iff.mp (renderedTable_eq_ok_iff.mp ht).2
    exact ⟨s, hs⟩
  · rintro ⟨s, hs⟩
    have htext : f.createTableFrom (.record r) = .ok _ :=
      h.createTableFrom_eq_ok_iff.mpr ⟨s, hs, rfl⟩
    exact ⟨⟨r.name, _⟩, renderedTable_eq_ok_iff.mpr ⟨rfl, htext⟩⟩

theorem Complete.renderedTable_eq_error_iff (h : f.Complete) :
    f.renderedTable r = .error e ↔ r.analyze = .error e := by
  unfold renderedTable
  rw [map_eq_error_iff]
  exact h.createTableFrom_eq_error_iff

/-- **The first record that cannot be analyzed is reported.** -/
theorem Complete.mapM_renderedTable_eq_error_iff (h : f.Complete)
    {records : List RecordDescription} :
    records.mapM f.renderedTable = .error e ↔
      ∃ pre r post, records = pre ++ r :: post ∧ (∀ q ∈ pre, ∃ s, q.analyze = .ok s) ∧
        r.analyze = .error e := by
  rw [mapM_eq_error_iff]
  simp only [h.exists_renderedTable_iff, h.renderedTable_eq_error_iff]

end Flavor

/-! ## Tables from files -/

namespace Command

variable {ctx : Context} {files : Files} {paths : List String}

/-- With every file loaded and every record rendered, there is one table for every record. -/
theorem createTable_eq_ok_iff {report : Report} :
    (run ctx files (.createTable paths)).result = .ok report ↔
      ∃ groups tables, List.Forall₂ (Description.Holds files) paths groups ∧
        List.Forall₂ ctx.dialect.flavor.Renders groups.flatten tables ∧
        report = .tables ctx.dialect.name tables := by
  rw [run, result_runCreateTable, bind_eq_ok_iff]
  constructor
  · rintro ⟨records, hrecords, h⟩
    obtain ⟨groups, hgroups, rfl⟩ := Description.loadAll_eq_ok_iff.mp hrecords
    obtain ⟨tables, htables, hreport⟩ := bind_eq_ok_iff.mp h
    exact ⟨groups, tables, hgroups, Flavor.mapM_renderedTable_eq_ok_iff.mp htables,
      (Except.ok.inj hreport).symm⟩
  · rintro ⟨groups, tables, hgroups, hrendered, rfl⟩
    refine ⟨_, Description.loadAll_eq_ok_iff.mpr ⟨groups, hgroups, rfl⟩, ?_⟩
    rw [Flavor.mapM_renderedTable_eq_ok_iff.mpr hrendered]
    rfl

/-- Files come before records, and of each the first that fails is reported. -/
theorem createTable_eq_error_iff {e : Error} :
    (run ctx files (.createTable paths)).result = .error e ↔
      (∃ pre path post, paths = pre ++ path :: post ∧
        (∀ p ∈ pre, ∃ records, Description.Holds files p records) ∧
          Description.Refused files path e) ∨
      ∃ groups, List.Forall₂ (Description.Holds files) paths groups ∧
        ∃ pre r post, groups.flatten = pre ++ r :: post ∧ (∀ q ∈ pre, ∃ s, q.analyze = .ok s) ∧
          r.analyze = .error e := by
  have hcomplete := Flavor.complete_dialect ctx.dialect
  rw [run, result_runCreateTable, bind_eq_error_iff, Description.loadAll_eq_error_iff]
  refine or_congr_right ?_
  constructor
  · rintro ⟨records, hrecords, h⟩
    obtain ⟨groups, hgroups, rfl⟩ := Description.loadAll_eq_ok_iff.mp hrecords
    refine ⟨groups, hgroups, ?_⟩
    exact hcomplete.mapM_renderedTable_eq_error_iff.mp (bind_pure_eq_error_iff.mp h)
  · rintro ⟨groups, hgroups, hfirst⟩
    refine ⟨_, Description.loadAll_eq_ok_iff.mpr ⟨groups, hgroups, rfl⟩, ?_⟩
    exact bind_pure_eq_error_iff.mpr (hcomplete.mapM_renderedTable_eq_error_iff.mpr hfirst)

/-- **Tables are reported exactly when every file holds records that can all be analyzed.** -/
theorem exists_createTable_iff :
    (∃ report, (run ctx files (.createTable paths)).result = .ok report) ↔
      ∀ path ∈ paths, ∃ records, Description.Holds files path records ∧
        ∀ r ∈ records, ∃ s, r.analyze = .ok s := by
  have hcomplete := Flavor.complete_dialect ctx.dialect
  constructor
  · rintro ⟨report, h⟩ path hpath
    obtain ⟨groups, tables, hgroups, hrendered, -⟩ := createTable_eq_ok_iff.mp h
    obtain ⟨records, hrecords, hholds⟩ := exists_mem_of_forall₂ hgroups hpath
    refine ⟨records, hholds, fun r hr => ?_⟩
    have hmem : r ∈ groups.flatten := List.mem_flatten.mpr ⟨records, hrecords, hr⟩
    obtain ⟨t, -, ht⟩ := exists_mem_of_forall₂ hrendered hmem
    exact hcomplete.exists_renderedTable_iff.mp ⟨t, Flavor.renderedTable_eq_ok_iff.mpr ht⟩
  · intro hall
    cases hrun : (run ctx files (.createTable paths)).result with
    | ok report => exact ⟨report, rfl⟩
    | error e =>
      rcases createTable_eq_error_iff.mp hrun with
        ⟨pre, path, post, rfl, -, hrefused⟩ | ⟨groups, hgroups, pre, r, post, hsplit, -, hfails⟩
      · obtain ⟨records, hholds, -⟩ := hall path (List.mem_append_right pre List.mem_cons_self)
        exact absurd hrefused (hholds.not_refused e)
      · have hmem : r ∈ groups.flatten :=
          hsplit ▸ List.mem_append_right pre List.mem_cons_self
        obtain ⟨group, hgroup, hr⟩ := List.mem_flatten.mp hmem
        obtain ⟨path, hpath, hholds⟩ := exists_mem_of_forall₂ hgroups.flip hgroup
        obtain ⟨records, hrecords, hanalyzed⟩ := hall path hpath
        obtain rfl := hrecords.unique hholds
        obtain ⟨s, hs⟩ := hanalyzed r hr
        rw [hfails] at hs
        cases hs

end Command

/-! ## From the command line -/

namespace Program

variable {arguments : List String} {logSpec : Option String} {files : Files}
  {i : CommandLine.Invocation} {c? : Option Configuration} {e : Error}

/-- **A command that fails leaves nothing on the output**; its error ends the error stream. -/
theorem run_of_error (hparse : CommandLine.parse files.has arguments = .ok i)
    (hload : (Configuration.load files i.config).result = .ok c?)
    (h : (i.command.run (Context.ofConfiguration c? i.dialect) files).result = .error e) :
    ∃ log, run arguments logSpec files = ⟨1, "", log ++ "Error: " ++ e.diagnostic ++ "\n"⟩ := by
  have hresult : (i.run files).result = .error e := by
    unfold CommandLine.Invocation.run
    simp only [Logged.result_bind, hload, ok_bind, h, error_bind]
  unfold run outcomeOf
  simp only [hparse, hresult]
  exact ⟨_, rfl⟩

end Program

/-- **Either every record gets its table, or the first error is reported and nothing else.** Tables
are reported exactly when every file holds records and all of them can be analyzed; then they are,
file by file and record by record, one table for each. Otherwise the first file that does not load is
reported, even if a record in front of it cannot be analyzed; and with every file loaded, the first
record that cannot be. A run of the program that ends so prints nothing and exits with code 1. -/
theorem tables_all_or_nothing (ctx : Context) (files : Files) (paths : List String) :
    let result := (Command.run ctx files (.createTable paths)).result
    ((∃ report, result = .ok report) ↔
        ∀ path ∈ paths, ∃ records, Description.Holds files path records ∧
          ∀ r ∈ records, ∃ s, r.analyze = .ok s) ∧
      (∀ report, result = .ok report ↔
        ∃ groups tables, List.Forall₂ (Description.Holds files) paths groups ∧
          List.Forall₂ ctx.dialect.flavor.Renders groups.flatten tables ∧
          report = .tables ctx.dialect.name tables) ∧
      (∀ e, result = .error e ↔
        (∃ pre path post, paths = pre ++ path :: post ∧
          (∀ p ∈ pre, ∃ records, Description.Holds files p records) ∧
            Description.Refused files path e) ∨
        ∃ groups, List.Forall₂ (Description.Holds files) paths groups ∧
          ∃ pre r post, groups.flatten = pre ++ r :: post ∧
            (∀ q ∈ pre, ∃ s, q.analyze = .ok s) ∧ r.analyze = .error e) ∧
      ∀ arguments logSpec i c?, CommandLine.parse files.has arguments = .ok i →
        i.command = .createTable paths → (Configuration.load files i.config).result = .ok c? →
        Context.ofConfiguration c? i.dialect = ctx → ∀ e, result = .error e →
          ∃ log, Program.run arguments logSpec files =
            ⟨1, "", log ++ "Error: " ++ e.diagnostic ++ "\n"⟩ := by
  intro result
  refine ⟨Command.exists_createTable_iff, fun report => Command.createTable_eq_ok_iff,
    fun e => Command.createTable_eq_error_iff, ?_⟩
  rintro arguments logSpec i c? hparse hcommand hload rfl e h
  refine Program.run_of_error hparse hload ?_
  rw [hcommand]
  exact h

/-- A record with a field of a type that is not known. -/
def unknownRecord : String :=
  "\x7b\"name\":\"a\",\"fields\":[\x7b\"name\":\"id\",\"type\":\"Json\"\x7d]\x7d"

/-- Such a record in one file, and another file that breaks off. -/
def brokenFiles : Files := fun path =>
  if path = "a.json" then .file unknownRecord.toUTF8
  else if path = "b.json" then .file "[".toUTF8
  else .missing

/-- The second file is reported, although the record in the first cannot be analyzed. -/
theorem tables_all_or_nothing_at_broken_file :
    let record : RecordDescription := ⟨"a", [⟨"id", "Json", false, false⟩], none, []⟩
    Description.Holds brokenFiles "a.json" [record] ∧
      record.analyze = .error (.unknownFieldType "Json") ∧
      ∃ e log, Description.parse "b.json" "[" = .error e ∧
        Program.run ["create-table", "a.json", "b.json"] none brokenFiles =
          ⟨1, "", log ++ "Error: " ++ e.diagnostic ++ "\n"⟩ := by
  intro record
  obtain ⟨-, -, herror, hrun⟩ :=
    tables_all_or_nothing {} brokenFiles ["a.json", "b.json"]
  have hfirst : Description.Holds brokenFiles "a.json" [record] := ⟨unknownRecord, rfl, rfl⟩
  have hpre : ∀ p ∈ ["a.json"], ∃ records, Description.Holds brokenFiles p records :=
    List.forall_mem_singleton.mpr ⟨_, hfirst⟩
  have hsecond : Description.Refused brokenFiles "b.json" _ := .undescribed rfl rfl
  have hresult := (herror _).mpr (.inl ⟨["a.json"], "b.json", [], rfl, hpre, hsecond⟩)
  obtain ⟨log, hlog⟩ := hrun ["create-table", "a.json", "b.json"] none _ none rfl rfl rfl rfl _
    hresult
  exact ⟨hfirst, rfl, _, log, rfl, hlog⟩

end TableScript
