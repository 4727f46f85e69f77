import TableScript.Proofs.Acceptance
import TableScript.Proofs.Creation
import TableScript.Proofs.Marks
import TableScript.Proofs.Naming
import TableScript.Proofs.Quoting
import TableScript.Proofs.Rendering

/-!
# Statements that close their quotes

Every part of a statement closes its quotes by itself: names because they are quoted, kinds and
extras of constraints when they have neither semicolons nor quote characters (`PlainConstraint`),
everything else because it is plain (`Guarded`). The name of the table is the only part that stands
as it is.

Results:
* `closed_quoted`, `closed_quotedList`: quoted names are closed, whatever the names.
* `Flavor.Guarded.closed_columnText`, `Flavor.Guarded.closed_keyClause`,
  `Flavor.Guarded.closed_constraintClause`: every clause of a guarded dialect is closed.
* `closed_statement_iff`: a statement is closed exactly when the name of its table is.
* `Dialect.closed_createDatabase`: the statement for the database is closed.
* `Database.split_script_iff`: a script splits into its statements exactly when all table names are
  closed; `Database.split_script_with_semicolon_in_table_name` is an accepted table whose name is
  not.
-/

namespace TableScript

open Text Script

/-! ## The parts of a statement -/

namespace Identifier

variable {q : Char}

theorem scan_doubled (hq : q ≠ ';') : ∀ cs : List Char, scan q true (doubled q cs) = some true
  | [] => rfl
  | c :: cs => by
    by_cases hc : c = q
    · rw [hc, doubled_cons_quote, scan, if_neg (by simp), if_pos rfl, scan,
        if_neg (fun h => hq h.1), if_pos rfl]
      exact scan_doubled hq cs
    · rw [doubled_cons_of_ne hc, scan, if_neg (by simp), if_neg hc]
      exact scan_doubled hq cs

/-- **A quoted name is closed**, whatever the name. -/
theorem closed_quoted (hq : q ≠ ';') (name : String) : Closed q (quoted q name).toList := by
  rw [closed_iff_scan, toList_quoted, scan, if_neg (fun h => hq h.1), if_pos rfl, scan_append]
  rw [Bool.not_false, scan_doubled hq]
  show scan q true [q] = some false
  rw [scan, if_neg (by simp), if_pos rfl]
  rfl

theorem closed_quotedList (hmark : q ∈ marks) (hq : q ≠ ';') :
    ∀ names : List String, Closed q (quotedList q names).toList
  | [] => closed_of_plain nofun
  | name :: names => by
    have hsep : Closed q ", ".toList := closed_of_avoids hmark
    rw [toList_quotedList_cons]
    exact (closed_quoted hq name).append
      (closed_flatMap fun x _ => hsep.append (closed_quoted hq x))

end Identifier

namespace Flavor

/-- The kind and the extras of a constraint hold neither semicolons nor quote characters. -/
def PlainConstraint (f : Flavor) (c : Constraint) : Prop :=
  ∀ x ∈ c.kind.toList ++ (c.extras.getD "").toList, x ≠ ';' ∧ x ≠ f.quote

/-- The quote character is a mark that is no part of the fixed texts, and neither semicolons nor
quote characters stand in column types. -/
structure Guarded (f : Flavor) : Prop where
  complete : f.Complete
  quote_mark : f.quote ∈ ['\x60', '"']
  literal_closed : ∀ t, Closed f.quote (f.literal t).toList

theorem guarded_dialect (d : Dialect) : d.flavor.Guarded where
  complete := complete_dialect d
  quote_mark := quote_dialect d
  literal_closed t := by
    have hquote := quote_dialect d
    refine closed_of_plain fun c hc => ?_
    have hplain := literal_dialect_plain d t c hc
    simp only [List.mem_cons, List.not_mem_nil, or_false, not_or] at hplain hquote
    refine ⟨hplain.2.1, ?_⟩
    rcases hquote with hquote | hquote <;> rw [hquote]
    · exact hplain.2.2.1
    · exact hplain.2.2.2

variable {f : Flavor}

theorem Guarded.mem_marks (hf : f.Guarded) : f.quote ∈ marks :=
  List.mem_cons_of_mem ';' hf.quote_mark

theorem Guarded.quote_ne_semicolon (hf : f.Guarded) : f.quote ≠ ';' := by
  intro h
  exact absurd (h ▸ hf.quote_mark) (by decide)

theorem Guarded.quote_ne_newline (hf : f.Guarded) : f.quote ≠ '\n' := by
  intro h
  exact absurd (h ▸ hf.quote_mark) (by decide)

theorem Guarded.closed_quoteNames (hf : f.Guarded) (names : List String) :
    Closed f.quote (f.quoteNames names).toList :=
  Identifier.closed_quotedList hf.mem_marks hf.quote_ne_semicolon names

theorem Guarded.closed_columnText (hf : f.Guarded) (c : Column) :
    Closed f.quote (f.columnText c).toList := by
  have hmark := hf.mem_marks
  have hnull : Closed f.quote (nullClause c.nullable).toList := by
    cases c.nullable <;> exact closed_of_avoids hmark
  have hblank : Closed f.quote " ".toList := closed_of_avoids hmark
  unfold columnText
  simp only [String.toList_append]
  exact ((((Identifier.closed_quoted hf.quote_ne_semicolon c.name).append hblank).append
    (hf.literal_closed c.type)).append hblank).append hnull

theorem Guarded.closed_keyClause (hf : f.Guarded) (key : List String) :
    Closed f.quote (f.keyClause key).toList := by
  have hmark := hf.mem_marks
  unfold keyClause
  simp only [String.toList_append]
  exact ((closed_of_avoids hmark).append (hf.closed_quoteNames key)).append
    (closed_of_avoids hmark)

theorem Guarded.closed_constraintClause (hf : f.Guarded) {c : Constraint}
    (hc : f.PlainConstraint c) : Closed f.quote (f.constraintClause c).toList := by
  have hmark := hf.mem_marks
  have hkind : Closed f.quote (upper c.kind.toList) := by
    refine closed_of_plain fun x hx => ⟨?_, ?_⟩
    · rintro rfl
      exact (hc ';' (List.mem_append_left _ (mem_of_mem_upper (by decide) hx))).1 rfl
    · rintro rfl
      exact (hc _ (List.mem_append_left _ (mem_of_mem_upper hmark hx))).2 rfl
  have hextras : Closed f.quote (c.extras.getD "").toList :=
    closed_of_plain fun x hx => hc x (List.mem_append_right _ hx)
  rw [constraintClause, String.toList_ofList, closed_trim_iff hmark]
  simp only [String.toList_append]
  exact (hkind.append (((closed_of_avoids hmark).append
    (hf.closed_quoteNames c.fields)).append (closed_of_avoids hmark))).append hextras

theorem Guarded.closed_clauseTexts (hf : f.Guarded) {s : Specification}
    (hplain : ∀ c ∈ s.constraints, f.PlainConstraint c) :
    ∀ clause ∈ f.clauseTexts s, Closed f.quote clause.toList := by
  intro clause hmem
  rcases List.mem_append.mp hmem with hmem | hmem
  · obtain ⟨c, -, rfl⟩ := List.mem_map.mp hmem
    exact hf.closed_columnText c
  · rcases List.mem_cons.mp hmem with rfl | hmem
    · exact hf.closed_keyClause s.key
    · obtain ⟨c, hc, rfl⟩ := List.mem_map.mp hmem
      exact hf.closed_constraintClause (hplain c hc)

theorem closed_intercalate {q : Char} (hq : q ∈ marks) : ∀ {texts : List String},
    (∀ text ∈ texts, Closed q text.toList) → Closed q (", ".intercalate texts).toList
  | [], _ => closed_of_plain nofun
  | text :: rest, h => by
    rw [toList_intercalate_cons]
    refine (h text List.mem_cons_self).append (closed_flatMap fun x hx => ?_)
    exact (closed_of_avoids hq).append (h x (List.mem_cons_of_mem text hx))

/-- **A statement is closed exactly when the name of its table is.** -/
theorem closed_statement_iff {q : Char} (hq : q ∈ marks) {table : String} {clauses : List String}
    (h : ∀ clause ∈ clauses, Closed q clause.toList) :
    Closed q (statement table clauses).toList ↔ Closed q table.toList := by
  have hbody : Closed q (" (" ++ ", ".intercalate clauses ++ ")").toList := by
    simp only [String.toList_append]
    exact ((closed_of_avoids hq).append (closed_intercalate hq h)).append
      (closed_of_avoids hq)
  have hhead : Closed q "CREATE TABLE ".toList := closed_of_avoids hq
  have hsplit : (statement table clauses).toList = "CREATE TABLE ".toList ++
      (table.toList ++ (" (" ++ ", ".intercalate clauses ++ ")").toList) := by
    unfold statement
    simp only [String.toList_append, List.append_assoc]
  rw [hsplit, hhead.append_iff_right, hbody.append_iff_left]

end Flavor

/-! ## The statements of a database -/

namespace Identifier

theorem isPlainChar_of_isPlain {name : String} (h : isPlain name = true) :
    ∀ c ∈ name.toList, isPlainChar c = true :=
  List.all_eq_true.mp (Bool.and_eq_true_iff.mp h).2

theorem closed_of_isPlain {q : Char} (hq : q ∈ marks) {name : String} (h : isPlain name = true) :
    Closed q name.toList :=
  closed_of_class hq (by decide) (isPlainChar_of_isPlain h)

end Identifier

namespace Dialect

variable {d : Dialect}

/-- The statement that creates a database is closed, since its name and settings are plain. -/
theorem closed_createDatabase {name statement : String} (hs : d.flavor.unplainSetting? = none)
    (hn : Identifier.isPlain name = true) (h : d.flavor.createDatabase? name = some statement) :
    Closed d.flavor.quote statement.toList := by
  have hmark := (Flavor.guarded_dialect d).mem_marks
  have hname := Identifier.closed_of_isPlain hmark hn
  have hsettings : ∀ s ∈ d.flavor.settings, Closed d.flavor.quote s.2.toList := fun s hmem =>
    Identifier.closed_of_isPlain hmark
      (Identifier.isPlain_iff.mpr (Flavor.unplainSetting?_eq_none_iff.mp hs s hmem))
  cases d with
  | mysql charset collation =>
    have hcharset := hsettings ("charset", charset) List.mem_cons_self
    have hcollation := hsettings ("collation", collation)
      (List.mem_cons_of_mem _ List.mem_cons_self)
    obtain rfl := Option.some.inj h
    simp only [String.toList_append]
    exact (((((closed_of_avoids hmark).append hname).append
      (closed_of_avoids hmark)).append hcharset).append
      (closed_of_avoids hmark)).append hcollation
  | postgres encoding =>
    have hencoding := hsettings ("encoding", encoding) List.mem_cons_self
    obtain rfl := Option.some.inj h
    simp only [String.toList_append]
    exact ((((closed_of_avoids hmark).append hname).append
      (closed_of_avoids hmark)).append hencoding).append
      (closed_of_avoids hmark)
  | sqlite => cases h

end Dialect

namespace Database

variable {d : Dialect} {name : String} {db : Database} {sources : List TableSource}

/-- **A script means its statements exactly when every table name closes its quotes.** The other
values in it are quoted, checked, or free of marks by assumption; a table name stands as it is and
need not be plain. -/
theorem split_script_iff (hdb : named d name = .ok db) {n : Nat}
    (hrun : (db.create Recorder.faithful sources .empty).result = .ok n)
    (hplain : ∀ source ∈ sources, ∀ s, source.analyze = .ok s →
      ∀ c ∈ s.constraints, d.flavor.PlainConstraint c) :
    split d.flavor.quote (scriptText (db.recorded sources)) = db.recorded sources ++ [""] ↔
      ∀ source ∈ sources, ∀ s, source.analyze = .ok s → Closed d.flavor.quote s.name.toList := by
  obtain ⟨tables, hrendered, hrecorded⟩ := recorded_of_create hrun
  obtain ⟨rfl, -⟩ := named_eq_ok hdb
  have hguarded := Flavor.guarded_dialect db.dialect
  have hcreation : ∀ st ∈ (db.flavor.createDatabase? db.name).toList,
      Closed db.dialect.flavor.quote st.toList := fun st hst =>
    Dialect.closed_createDatabase db.settings_plain db.name_plain (Option.mem_toList.mp hst)
  rw [split_scriptText_iff hguarded.quote_ne_newline, hrecorded, List.forall_mem_append,
    and_iff_right hcreation, forall_mem_iff_of_mapM_eq_ok hrendered]
  refine forall₂_congr fun source hsource => ?_
  constructor
  · intro h s hs
    have hclauses := hguarded.closed_clauseTexts (hplain source hsource s hs)
    rw [← Flavor.closed_statement_iff hguarded.mem_marks hclauses]
    exact h _ ((hguarded.complete.createTableFrom_eq_ok_iff).mpr ⟨s, hs, rfl⟩)
  · intro h text htext
    obtain ⟨s, hs, rfl⟩ := (hguarded.complete.createTableFrom_eq_ok_iff).mp htext
    have hclauses := hguarded.closed_clauseTexts (hplain source hsource s hs)
    exact (Flavor.closed_statement_iff hguarded.mem_marks hclauses).mpr (h s hs)

/-- A database of the dialect that has no statement to create one. -/
def app : Database := ⟨.sqlite, "app", by decide, by decide⟩

/-- A column with the end of a statement for a name stays in its quotes. -/
theorem split_script_with_hostile_column :
    named .sqlite "app" = .ok app ∧
      (app.create Recorder.faithful [keyedTable "posts" "id\"; DROP TABLE posts"] .empty).result =
          .ok 1 ∧
        split '"' (scriptText (app.recorded [keyedTable "posts" "id\"; DROP TABLE posts"])) =
          app.recorded [keyedTable "posts" "id\"; DROP TABLE posts"] ++ [""] := by
  have hdb : named .sqlite "app" = .ok app := rfl
  have hrun : (app.create Recorder.faithful
      [keyedTable "posts" "id\"; DROP TABLE posts"] .empty).result = .ok 1 := rfl
  refine ⟨hdb, hrun, (split_script_iff hdb hrun ?_).mpr ?_⟩
  · intro source hsource s hs c hc
    obtain rfl := List.mem_singleton.mp hsource
    rw [(RecordDescription.parts_of_analyze hs).2.2] at hc
    cases hc
  · intro source hsource s hs
    obtain rfl := List.mem_singleton.mp hsource
    rw [(RecordDescription.parts_of_analyze hs).1]
    exact closed_of_avoids (by decide)

/-- The semicolon of a table name makes two statements of one. -/
theorem split_script_with_semicolon_in_table_name :
    named .sqlite "app" = .ok app ∧
      (app.create Recorder.faithful [keyedTable "a;b" "id"] .empty).result = .ok 1 ∧
        app.recorded [keyedTable "a;b" "id"] =
            ["CREATE TABLE a;b (\"id\" TEXT NOT NULL, PRIMARY KEY (\"id\"))"] ∧
          split '"' (scriptText (app.recorded [keyedTable "a;b" "id"])) =
              ["CREATE TABLE a", "b (\"id\" TEXT NOT NULL, PRIMARY KEY (\"id\"))", ""] ∧
            split '"' (scriptText (app.recorded [keyedTable "a;b" "id"])) ≠
              app.recorded [keyedTable "a;b" "id"] ++ [""] := by
  have hrun : (app.create Recorder.faithful [keyedTable "a;b" "id"] .empty).result = .ok 1 := rfl
  have hrecorded : app.recorded [keyedTable "a;b" "id"] =
      ["CREATE TABLE a;b (\"id\" TEXT NOT NULL, PRIMARY KEY (\"id\"))"] := rfl
  have hsplit : split '"' (scriptText (app.recorded [keyedTable "a;b" "id"])) =
      ["CREATE TABLE a", "b (\"id\" TEXT NOT NULL, PRIMARY KEY (\"id\"))", ""] := by
    rw [hrecorded]
    decide +kernel
  refine ⟨rfl, hrun, hrecorded, hsplit, ?_⟩
  rw [hsplit, hrecorded]
  decide +kernel

end Database

end TableScript
