import TableScript.Database

/-!
# What creating a database executes

Creating a database either fails to render a table and executes nothing, or it executes the
statement of the database, if there is one, and the statements of the tables.

Results:
* `Flavor.result_mapM_renderTable`: the tables are rendered up to the first that fails, whatever is
  noted on the way.
* `Recorder.executeAll_faithful`: an executor that never fails keeps every statement.
* `Database.named_of_checkSettings`: with plain settings, a database is named exactly if its name is
  plain, and else refused for its name.
* `Database.create_of_error`, `Database.create_of_ok`: what creating executes, in these two cases.
* `Database.recorded_of_create`: so this is what is kept.
-/

namespace TableScript

/-- The tables are rendered up to the first that fails, whatever is noted on the way. -/
theorem Flavor.result_mapM_renderTable (f : Flavor) (sources : List TableSource) :
    (sources.mapM f.renderTable).result = sources.mapM f.createTableFrom := by
  rw [Logged.result_mapM]
  simp only [Flavor.result_renderTable]

theorem Recorder.executeAll_faithful : ∀ (plan : List String) (r : Recorder),
    Recorder.faithful.executeAll plan r =
      (.ok (), ⟨r.calls + plan.length, r.statements ++ plan⟩)
  | [], r => by
    rw [List.append_nil]
    rfl
  | statement :: rest, r => by
    have ih := Recorder.executeAll_faithful rest ⟨r.calls + 1, r.statements ++ [statement]⟩
    refine ih.trans ?_
    simp only [List.append_assoc, List.singleton_append, List.length_cons, Nat.add_assoc,
      Nat.add_comm 1]

namespace Database

theorem named_eq_ok {d : Dialect} {name : String} {db : Database} (h : named d name = .ok db) :
    db.dialect = d ∧ db.name = name := by
  unfold named at h
  split at h
  · cases h
  · split at h
    · obtain rfl := Except.ok.inj h
      exact ⟨rfl, rfl⟩
    · cases h

section Named

variable {d : Dialect} {name : String}

theorem unplainSetting?_of_checkSettings {f : Flavor} (h : f.checkSettings = .ok ()) :
    f.unplainSetting? = none := by
  unfold Flavor.checkSettings at h
  split at h
  · assumption
  · cases h

/-- With plain settings, the name alone decides. -/
theorem named_of_checkSettings (hsettings : d.flavor.checkSettings = .ok ()) :
    named d name =
      if hname : Identifier.isPlain name = true then
        .ok ⟨d, name, unplainSetting?_of_checkSettings hsettings, hname⟩
      else .error (.invalidDatabaseName name) := by
  have hnone := unplainSetting?_of_checkSettings hsettings
  unfold named
  split
  · next hsome =>
    rw [hnone] at hsome
    cases hsome
  · rfl

/-- With plain settings, a plain name is all that a database needs. -/
theorem exists_named_of_isPlain (hsettings : d.flavor.checkSettings = .ok ())
    (hname : Identifier.isPlain name = true) : ∃ db, named d name = .ok db := by
  rw [named_of_checkSettings hsettings, dif_pos hname]
  exact ⟨_, rfl⟩

/-- With plain settings, the name is what is refused. -/
theorem named_of_not_isPlain (hsettings : d.flavor.checkSettings = .ok ())
    (hname : Identifier.isPlain name = false) :
    named d name = .error (.invalidDatabaseName name) := by
  rw [named_of_checkSettings hsettings, dif_neg (by rw [hname]; exact Bool.false_ne_true)]

end Named

section Create

variable {σ : Type} (db : Database) (execute : Executor σ) (state : σ)
  {sources : List TableSource}

/-- A table that cannot be rendered leaves the executor as it was. -/
theorem create_of_error {e : Error} (h : sources.mapM db.flavor.createTableFrom = .error e) :
    (db.create execute sources state).result = .error e ∧
      (db.create execute sources state).state = state := by
  have hrendered := (db.flavor.result_mapM_renderTable sources).trans h
  unfold create
  simp only [hrendered, and_self]

/-- With every table rendered, the database statement and the tables are executed in order. -/
theorem create_of_ok {tables : List String}
    (h : sources.mapM db.flavor.createTableFrom = .ok tables) :
    let plan := (db.flavor.createDatabase? db.name).toList ++ tables
    (db.create execute sources state).result =
        (execute.executeAll plan state).1.map (fun _ => tables.length) ∧
      (db.create execute sources state).state = (execute.executeAll plan state).2 := by
  intro plan
  have hrendered := (db.flavor.result_mapM_renderTable sources).trans h
  unfold create
  simp only [hrendered]
  rcases execute.executeAll plan state with ⟨_ | _, after⟩ <;> exact ⟨rfl, rfl⟩

end Create

/-! ## An executor that never fails -/

/-- What an executor keeps that never fails, when it creates the database with these tables. -/
def recorded (db : Database) (sources : List TableSource) : List String :=
  (db.create Recorder.faithful sources .empty).state.statements

/-- It keeps the statement of the database, if there is one, and those of the tables. -/
theorem recorded_of_create {db : Database} {sources : List TableSource} {n : Nat}
    (h : (db.create Recorder.faithful sources .empty).result = .ok n) :
    ∃ tables, sources.mapM db.flavor.createTableFrom = .ok tables ∧
      db.recorded sources = (db.flavor.createDatabase? db.name).toList ++ tables := by
  cases hrendered : sources.mapM db.flavor.createTableFrom with
  | error e =>
    rw [(create_of_error db Recorder.faithful .empty hrendered).1] at h
    cases h
  | ok tables =>
    refine ⟨tables, rfl, ?_⟩
    rw [recorded, (create_of_ok db Recorder.faithful .empty hrendered).2,
      Recorder.executeAll_faithful]
    rfl

/-- One table with a key column, both of any name. -/
def keyedTable (table key : String) : TableSource :=
  .record ⟨table, [⟨key, "UUID", false, true⟩], none, []⟩

end Database

end TableScript
