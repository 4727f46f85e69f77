import TableScript.Proofs.Decoding
import TableScript.Proofs.Trimming

/-!
# Clauses that are primary keys

Every statement has the clause of its key, and a constraint makes a further primary key exactly when
its kind reads so in upper case (`KindOfKey`), since a kind may be any text that is not blank. A
column never does, as it begins with the quote character.

Results:
* `Flavor.isKeyClause_columnText`, `Flavor.isKeyClause_keyClause`,
  `Flavor.isKeyClause_constraintText_iff`: which clauses begin like a primary key, one statement for
  each sort of clause.
* `Flavor.filter_isKeyClause_clauseTexts`: the primary keys of a statement, in order.
* `Flavor.one_key_clause_iff`: there is one exactly when no kind of a constraint reads so;
  `Flavor.two_key_clauses_of_second_key` is an accepted table with two.
-/

namespace TableScript.Flavor

open Text

/-- The clause begins like a primary key. -/
def isKeyClause (clause : String) : Bool := "PRIMARY KEY (".toList.isPrefixOf clause.toList

/-- In upper case and without white space in front, the kind is that of a primary key, with nothing
or a bracket behind it. -/
def KindOfKey (kind : String) : Prop :=
  trimStart (upper kind.toList) = "PRIMARY KEY".toList ∨
    "PRIMARY KEY (".toList <+: trimStart (upper kind.toList)

instance : DecidablePred KindOfKey := fun kind =>
  inferInstanceAs (Decidable (trimStart (upper kind.toList) = "PRIMARY KEY".toList ∨
    "PRIMARY KEY (".toList <+: trimStart (upper kind.toList)))

theorem isKeyClause_iff {clause : String} :
    isKeyClause clause = true ↔ "PRIMARY KEY (".toList <+: clause.toList :=
  List.isPrefixOf_iff_prefix

/-- In front of a blank and a bracket, a text that begins a primary key with them is one by itself or
lacks just these two. -/
theorem prefix_append_bracket_iff {cs rest : List Char} :
    "PRIMARY KEY (".toList <+: cs ++ ' ' :: '(' :: rest ↔
      cs = "PRIMARY KEY".toList ∨ "PRIMARY KEY (".toList <+: cs := by
  constructor
  · rintro ⟨tail, h⟩
    rcases List.append_eq_append_iff.mp h with ⟨more, rfl, -⟩ | ⟨more, hhead, htail⟩
    · exact .inr (List.prefix_append _ more)
    · rcases List.eq_nil_or_concat' more with rfl | ⟨front, last, rfl⟩
      · rw [List.append_nil] at hhead
        exact .inr (hhead ▸ List.prefix_rfl)
      · -- The bracket is the only one in the head, so only the blank stands in front of it here.
        rw [← List.append_assoc] at hhead
        have hparts : "PRIMARY KEY ".toList ++ ['('] = (cs ++ front) ++ [last] := hhead
        obtain ⟨hfront, hlast⟩ := List.append_inj' hparts rfl
        obtain rfl := (List.cons.inj hlast).1
        have hbracket : '(' ∉ front := fun hmem =>
          absurd (hfront ▸ List.mem_append_right cs hmem : '(' ∈ "PRIMARY KEY ".toList) (by decide)
        have hrow : front ++ '(' :: tail = [' '] ++ '(' :: rest := by
          rw [List.append_assoc] at htail
          exact htail.symm
        obtain ⟨rfl, -⟩ := append_cons_inj hbracket (by decide) hrow
        exact .inl (List.append_cancel_right (hfront.symm : _ = "PRIMARY KEY".toList ++ [' ']))
  · rintro (rfl | h)
    · exact ⟨rest, rfl⟩
    · exact h.trans (List.prefix_append cs _)

/-! ## Clause by clause -/

/-- A column begins with a quote character, which is no letter. -/
theorem isKeyClause_columnText (d : Dialect) (c : Column) :
    isKeyClause (d.flavor.columnText c) = false := by
  rw [← Bool.not_eq_true, isKeyClause_iff, toList_columnText, Identifier.toList_quoted]
  rintro ⟨tail, h⟩
  have hquote : 'P' = d.flavor.quote := (List.cons.inj h).1
  exact (legible_dialect d).quote_apart (by simp [← hquote])

theorem isKeyClause_keyClause (f : Flavor) (key : List String) :
    isKeyClause (f.keyClause key) = true := by
  rw [isKeyClause_iff, keyClause, String.append_assoc, String.toList_append]
  exact List.prefix_append _ _

/-- **A constraint is a primary key exactly when its kind reads so.** -/
theorem isKeyClause_constraintText_iff (f : Flavor) (c : Constraint) :
    isKeyClause (f.constraintText c) = true ↔ KindOfKey c.kind := by
  have htext : (f.constraintText c).toList = trimStart (upper c.kind.toList) ++
      ' ' :: '(' :: ((f.quoteNames c.fields).toList ++ ')' :: (extrasText c.extras).toList) := by
    simp [constraintText]
  rw [isKeyClause_iff, htext, prefix_append_bracket_iff, KindOfKey]

/-- The primary keys of a statement: its key, and the constraints whose kinds read so. -/
theorem filter_isKeyClause_clauseTexts (d : Dialect) (s : Specification) :
    (d.flavor.clauseTexts s).filter isKeyClause = d.flavor.keyClause s.key ::
      (s.constraints.filter fun c => KindOfKey c.kind).map d.flavor.constraintClause := by
  have hcolumns : (s.columns.map d.flavor.columnText).filter isKeyClause = [] := by
    rw [List.filter_eq_nil_iff, List.forall_mem_map]
    intro c _
    rw [isKeyClause_columnText]
    exact Bool.false_ne_true
  have hconstraint : ∀ c ∈ s.constraints,
      (isKeyClause ∘ d.flavor.constraintClause) c = decide (KindOfKey c.kind) := by
    intro c hc
    rw [Function.comp, constraintClause_eq_constraintText (s.valid.constraint_valid c hc).1,
      Bool.eq_iff_iff, isKeyClause_constraintText_iff, decide_eq_true_iff]
  rw [clauseTexts, List.filter_append, hcolumns, List.nil_append,
    List.filter_cons_of_pos (isKeyClause_keyClause _ _), List.filter_map,
    List.filter_congr hconstraint]

/-- **There is one primary key exactly when no kind of a constraint reads so.** Every table is
rendered; of the clauses, its key is a primary key and lists just the names of the key in order, and
the only others are the constraints whose kinds are those of a primary key. -/
theorem one_key_clause_iff (d : Dialect) (s : Specification) :
    ∃ clauses, d.flavor.clauses s = .ok clauses ∧
      clauses.filter isKeyClause = d.flavor.keyClause s.key ::
          (s.constraints.filter fun c => KindOfKey c.kind).map d.flavor.constraintClause ∧
        (∀ key, d.flavor.keyClause key = d.flavor.keyClause s.key → key = s.key) ∧
          (clauses.countP isKeyClause = 1 ↔ ∀ c ∈ s.constraints, ¬ KindOfKey c.kind) := by
  have hfilter := filter_isKeyClause_clauseTexts d s
  refine ⟨_, (complete_dialect d).clauses_eq s, hfilter, fun key hkey => ?_, ?_⟩
  · have htexts : (d.flavor.keyClause key).toList ++ [] = (d.flavor.keyClause s.key).toList ++ [] :=
      congrArg (·.toList ++ []) hkey
    exact ((legible_dialect d).keyClause_inj htexts).1
  · rw [List.countP_eq_length_filter, hfilter, List.length_cons, List.length_map, Nat.add_eq_right,
      List.length_eq_zero_iff, List.filter_eq_nil_iff]
    simp only [decide_eq_true_eq]

/-- A table with a constraint over a column that is not in its key: a second key, or an index. -/
def constrained (rekeyed : Bool) : Specification :=
  ⟨⟨"t", [⟨"id", .uuid, false⟩, ⟨"email", .string, false⟩], ["id"],
      [⟨if rekeyed then "primary key" else " unique", ["email"], none⟩]⟩,
    Draft.valid_of_fault?_eq_none (by cases rekeyed <;> decide)⟩

/-- With an index the table has one primary key. -/
theorem one_key_clause_of_index :
    (∀ c ∈ (constrained false).constraints, ¬ KindOfKey c.kind) ∧
      ∃ clauses, Dialect.sqlite.flavor.clauses (constrained false) = .ok clauses ∧
        clauses.countP isKeyClause = 1 ∧
          ∀ key, Dialect.sqlite.flavor.keyClause key = "PRIMARY KEY (\"id\")" → key = ["id"] := by
  have hkinds : ∀ c ∈ (constrained false).constraints, ¬ KindOfKey c.kind := by decide
  obtain ⟨clauses, hclauses, -, hkey, hone⟩ := one_key_clause_iff .sqlite (constrained false)
  exact ⟨hkinds, clauses, hclauses, hone.mpr hkinds, hkey⟩

/-- With a constraint that is a primary key, an accepted table has two, over different columns. -/
theorem two_key_clauses_of_second_key :
    Dialect.sqlite.flavor.createTable (constrained true) =
        .ok ("CREATE TABLE t (\"id\" TEXT NOT NULL, \"email\" TEXT NOT NULL, " ++
          "PRIMARY KEY (\"id\"), PRIMARY KEY (\"email\"))") ∧
      (Dialect.sqlite.flavor.clauses (constrained true)).map (List.countP isKeyClause) = .ok 2 :=
  ⟨rfl, rfl⟩

end TableScript.Flavor
