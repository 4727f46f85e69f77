import TableScript.Proofs.Quoting
import TableScript.Proofs.Rendering

/-!
# What a statement tells about its table

The clauses of a statement can be told apart by the text alone, although names may hold anything:
`Legible` says what a dialect needs for that. Constraints end the statement, so their free text
harms nothing in front of them.

A column is read as a word (`columnWord`) that ends at the comma behind it: the name ends where its
quotes do, and no comma stands in what follows it. The key ends the row of columns, as no column
begins like it. What is left are the constraints, of which only the joined text is told.

Results:
* `Flavor.Legible.readable_columnWord`: a column is read in one way only, whatever follows it.
* `Flavor.Legible.keyClause_inj`: so is the key.
* `Flavor.Legible.clauses_inj`: so are all clauses of a statement.
* `Flavor.legible_dialect`: the three dialects are legible, with any settings.
* `Flavor.createTable_determines`: two tables of one name with the same statement have the same
  columns, NULL clauses and column types, the same key, and constraint clauses that read the same.
-/

namespace TableScript.Flavor

open Identifier Text

/-- What keeps the clauses of a dialect apart: a name ends where a blank, a comma or a bracket
follows it, a column does not begin like the key, and a column type holds no comma. -/
structure Legible (f : Flavor) : Prop where
  complete : f.Complete
  quote_apart : f.quote ∉ [' ', ',', ')', 'P']
  literal_whole : ∀ t, ',' ∉ (f.literal t).toList

variable {f : Flavor}

/-! ## The text behind a column's name -/

/-- The type of a column and what follows it. -/
def columnTail (f : Flavor) (c : Column) : List Char :=
  ' ' :: ((f.literal c.type).toList ++ ' ' :: (nullClause c.nullable).toList)

theorem toList_columnText (f : Flavor) (c : Column) :
    (f.columnText c).toList = (quoted f.quote c.name).toList ++ f.columnTail c := by
  simp only [columnText, columnTail, quoteName, String.toList_append, List.append_assoc]
  rfl

/-- The last words of a column tell whether it takes NULL, whatever stands in front of them. -/
theorem append_nullClause_inj {xs ys : List Char} {a b : Bool}
    (h : xs ++ ' ' :: (nullClause a).toList = ys ++ ' ' :: (nullClause b).toList) :
    xs = ys ∧ a = b := by
  have hrev := congrArg List.reverse h
  rw [List.reverse_append, List.reverse_append] at hrev
  cases a <;> cases b
  · exact ⟨List.append_cancel_right h, rfl⟩
  · simp [nullClause] at hrev
  · simp [nullClause] at hrev
  · exact ⟨List.append_cancel_right h, rfl⟩

theorem comma_not_mem_columnTail (hf : f.Legible) (c : Column) : ',' ∉ f.columnTail c := by
  have hnull : ',' ∉ (nullClause c.nullable).toList := by cases c.nullable <;> decide
  have hliteral := hf.literal_whole c.type
  simp only [columnTail, List.mem_cons, List.mem_append, not_or]
  exact ⟨by decide, hliteral, by decide, hnull⟩

theorem columnTail_inj {c d : Column} (h : f.columnTail c = f.columnTail d) :
    f.literal c.type = f.literal d.type ∧ c.nullable = d.nullable := by
  obtain ⟨hliteral, hnull⟩ := append_nullClause_inj (List.cons.inj h).2
  exact ⟨String.toList_inj.mp hliteral, hnull⟩

/-! ## Columns in a row -/

/-- A column, as it stands in front of the next clause. -/
def columnWord (f : Flavor) (c : Column) : List Char := (f.columnText c).toList ++ ", ".toList

/-- What a statement tells about a column. -/
def columnView (f : Flavor) (c : Column) : String × Bool × Except Error String :=
  (c.name, c.nullable, f.physicalType c.type)

theorem columnWord_append (f : Flavor) (c : Column) (r : List Char) :
    f.columnWord c ++ r =
      (quoted f.quote c.name).toList ++ (f.columnTail c ++ ',' :: ' ' :: r) := by
  rw [columnWord, toList_columnText, List.append_assoc, List.append_assoc]
  rfl

theorem head?_columnWord (f : Flavor) (c : Column) (r : List Char) :
    (f.columnWord c ++ r).head? = some f.quote := by
  rw [columnWord_append, toList_quoted]
  rfl

/-- **A column is read in one way only**, whatever follows it. -/
theorem Legible.readable_columnWord (hf : f.Legible) :
    Readable f.columnWord f.columnView (fun _ => True) where
  follows_word _ _ := trivial
  view_eq {c d r s} _ _ h := by
    have hblank : ∀ (e : Column) (t : List Char), (f.columnTail e ++ t).head? ≠ some f.quote :=
      fun e t he => hf.quote_apart (by simp [← Option.some.inj he])
    rw [columnWord_append, columnWord_append] at h
    obtain ⟨hname, htail⟩ := quoted_append_inj (hblank c _) (hblank d _) h
    obtain ⟨htail, hrest⟩ := append_cons_inj (comma_not_mem_columnTail hf c)
      (comma_not_mem_columnTail hf d) htail
    obtain ⟨hliteral, hnull⟩ := columnTail_inj htail
    have hphysical : f.physicalType c.type = f.physicalType d.type := by
      rw [hf.complete.physicalType_eq, hf.complete.physicalType_eq, hliteral]
    exact ⟨by rw [columnView, columnView, hname, hnull, hphysical], (List.cons.inj hrest).2⟩

/-! ## Key and constraints -/

/-- The constraint clauses as they stand behind the key. -/
def constraintWords (f : Flavor) (constraints : List Constraint) : List Char :=
  (constraints.map f.constraintClause).flatMap fun clause => ", ".toList ++ clause.toList

theorem toList_keyClause_append (f : Flavor) (key : List String) (r : List Char) :
    (f.keyClause key).toList ++ r =
      "PRIMARY KEY (".toList ++ ((quotedList f.quote key).toList ++ ')' :: r) := by
  simp only [keyClause, quoteNames, String.toList_append, List.append_assoc]
  rfl

theorem head?_keyClause (f : Flavor) (key : List String) (r : List Char) :
    ((f.keyClause key).toList ++ r).head? = some 'P' := by
  rw [toList_keyClause_append]
  rfl

theorem Legible.endsRow_keyClause (hf : f.Legible) (key : List String) (r : List Char) :
    EndsRow f.columnWord (fun _ => True) ((f.keyClause key).toList ++ r) where
  follows := trivial
  no_word c t h := by
    have hhead := congrArg List.head? h
    rw [head?_columnWord, head?_keyClause] at hhead
    exact hf.quote_apart (by simp [Option.some.inj hhead])

/-- The key is read in one way only, whatever follows it. -/
theorem Legible.keyClause_inj (hf : f.Legible) {key₁ key₂ : List String} {r s : List Char}
    (h : (f.keyClause key₁).toList ++ r = (f.keyClause key₂).toList ++ s) :
    key₁ = key₂ ∧ r = s := by
  have hends : ∀ t : List Char, EndsNames f.quote (')' :: t) := fun t =>
    ⟨fun he => hf.quote_apart (by simp [← Option.some.inj he]), by simp⟩
  rw [toList_keyClause_append, toList_keyClause_append] at h
  obtain ⟨hkey, hrest⟩ := quotedList_append_inj (fun he => hf.quote_apart (by simp [he]))
    (hends r) (hends s) (List.append_cancel_left h)
  exact ⟨hkey, (List.cons.inj hrest).2⟩

/-- The text of the constraints is what joins their clauses. -/
theorem intercalate_eq_of_constraintWords_eq {ks₁ ks₂ : List Constraint}
    (h : f.constraintWords ks₁ = f.constraintWords ks₂) :
    ", ".intercalate (ks₁.map f.constraintClause) =
      ", ".intercalate (ks₂.map f.constraintClause) := by
  unfold constraintWords at h
  cases ks₁ with
  | nil =>
    cases ks₂ with
    | nil => rfl
    | cons k ks => simp at h
  | cons k ks =>
    cases ks₂ with
    | nil => simp at h
    | cons l ls =>
      rw [← String.toList_inj, List.map_cons, List.map_cons, toList_intercalate_cons,
        toList_intercalate_cons]
      rw [List.map_cons, List.map_cons, List.flatMap_cons, List.flatMap_cons, List.append_assoc,
        List.append_assoc] at h
      exact List.append_cancel_left h

/-! ## The statement -/

theorem toList_statement_clauseTexts (f : Flavor) (s : Specification) :
    (statement s.name (f.clauseTexts s)).toList =
      "CREATE TABLE ".toList ++ s.name.toList ++ " (".toList ++
        (s.columns.flatMap f.columnWord ++ ((f.keyClause s.key).toList ++
          (f.constraintWords s.constraints ++ [')']))) := by
  unfold statement clauseTexts columnWord constraintWords
  simp only [String.toList_append, toList_intercalate_append_cons, List.flatMap_map,
    List.append_assoc]
  rfl

/-- **The clauses are read in one way only.** -/
theorem Legible.clauses_inj (hf : f.Legible) {cs₁ cs₂ : List Column} {key₁ key₂ : List String}
    {r s : List Char}
    (h : cs₁.flatMap f.columnWord ++ ((f.keyClause key₁).toList ++ r) =
      cs₂.flatMap f.columnWord ++ ((f.keyClause key₂).toList ++ s)) :
    cs₁.map f.columnView = cs₂.map f.columnView ∧ key₁ = key₂ ∧ r = s := by
  obtain ⟨hcolumns, hrest⟩ := hf.readable_columnWord.flatMap_inj
    (hf.endsRow_keyClause key₁ r) (hf.endsRow_keyClause key₂ s) h
  exact ⟨hcolumns, hf.keyClause_inj hrest⟩

theorem legible_dialect (d : Dialect) : d.flavor.Legible where
  complete := complete_dialect d
  quote_apart := by
    have hq := quote_dialect d
    simp only [List.mem_cons, List.not_mem_nil, or_false] at hq
    rcases hq with hq | hq <;> rw [hq] <;> decide
  literal_whole t hc := literal_dialect_plain d t _ hc List.mem_cons_self

/-- **A statement loses nothing about columns and key.** Two tables of one name with the same
statement have, position by position, columns with the same names, NULL clauses and column types;
they have the same key in the same order; and their constraint clauses read the same. -/
theorem createTable_determines (d : Dialect) {s₁ s₂ : Specification} (hname : s₁.name = s₂.name)
    (h : d.flavor.createTable s₁ = d.flavor.createTable s₂) :
    s₁.columns.map (fun c => (c.name, c.nullable, d.flavor.physicalType c.type)) =
        s₂.columns.map (fun c => (c.name, c.nullable, d.flavor.physicalType c.type)) ∧
      s₁.key = s₂.key ∧
      ", ".intercalate (s₁.constraints.map d.flavor.constraintClause) =
        ", ".intercalate (s₂.constraints.map d.flavor.constraintClause) := by
  have hf := legible_dialect d
  rw [hf.complete.createTable_eq, hf.complete.createTable_eq, Except.ok.injEq,
    ← String.toList_inj, toList_statement_clauseTexts, toList_statement_clauseTexts, hname] at h
  obtain ⟨hcolumns, hkey, hrest⟩ := hf.clauses_inj (List.append_cancel_left h)
  exact ⟨hcolumns, hkey, intercalate_eq_of_constraintWords_eq (List.append_cancel_right hrest)⟩

/-- A table whose second column has clauses for a name, with or without a blank for extras. -/
def imitation (spaced : Bool) : Specification :=
  ⟨⟨"posts", [⟨"id", .uuid, false⟩, ⟨"a\" TEXT NOT NULL, PRIMARY KEY (\"id", .string, true⟩],
      ["id"], [⟨"unique", ["id"], if spaced then some " " else none⟩]⟩,
    Draft.valid_of_fault?_eq_none (by cases spaced <;> decide)⟩

/-- A blank for extras leaves no trace in a statement, and the name does not get in the way. -/
theorem imitation_determined :
    Dialect.sqlite.flavor.createTable (imitation false) =
        Dialect.sqlite.flavor.createTable (imitation true) ∧
      (imitation false).columns.map
          (fun c => (c.name, c.nullable, Dialect.sqlite.flavor.physicalType c.type)) =
        (imitation true).columns.map
          (fun c => (c.name, c.nullable, Dialect.sqlite.flavor.physicalType c.type)) ∧
      (imitation false).key = (imitation true).key := by
  have hname : (imitation false).name = (imitation true).name := rfl
  have hsame : Dialect.sqlite.flavor.createTable (imitation false) =
      Dialect.sqlite.flavor.createTable (imitation true) := rfl
  obtain ⟨hcolumns, hkey, -⟩ := createTable_determines .sqlite hname hsame
  exact ⟨hsame, hcolumns, hkey⟩

end TableScript.Flavor
