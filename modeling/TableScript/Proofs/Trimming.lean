import TableScript.Proofs.Acceptance
import TableScript.Proofs.Rendering
import TableScript.Proofs.White

/-!
# Constraints without white space at their ends

The clause of a constraint is put together first and trimmed as a whole. An accepted kind is not
blank, and its upper case is not either, so the front of the clause is trimmed within the kind; the
bracket behind the columns is not white, so the end is trimmed within the extras or just behind the
bracket. What comes out is `constraintText`, part by part.

* `extrasText` is what extras add to a clause; absent extras and blank ones add nothing.
* `EndsVisibly` texts end in a character that is not white.
* `Padded` constraints have further white space in front of their kind and behind their extras.

Results:
* `Flavor.constraintClause_eq_constraintText`: the clause is trimmed within the kind and the extras,
  never in between.
* `Flavor.endsVisibly_columnClause`, `Flavor.endsVisibly_keyClause`,
  `Flavor.endsVisibly_constraintText`: no clause of a table ends in white space.
* `Flavor.constraintText_of_padded`: white space at the ends of a constraint leaves no trace in its
  clause, and `Draft.Valid.of_padded`: none in whether the table is accepted.
* `Flavor.trimmed_at_the_ends`: what this means for the statement of a table.
-/

namespace TableScript

open Text

theorem Text.isBlank_iff {s : String} : isBlank s = true ↔ ∀ c ∈ s.toList, isWhite c = true :=
  List.all_eq_true

theorem Text.isBlank_append {s t : String} : isBlank (s ++ t) = (isBlank s && isBlank t) := by
  rw [isBlank, String.toList_append, List.all_append, isBlank, isBlank]

/-- The upper case of a text is blank only if the text is. -/
theorem Text.forall_isWhite_upper_iff {cs : List Char} :
    (∀ c ∈ upper cs, isWhite c = true) ↔ ∀ c ∈ cs, isWhite c = true := by
  have hnil : upper (trimStart cs) = [] ↔ trimStart cs = [] := by
    cases trimStart cs with
    | nil => exact Iff.rfl
    | cons c rest => simp [upper, upperChar_ne_nil]
  rw [← trimStart_eq_nil_iff, trimStart_upper, hnil, trimStart_eq_nil_iff]

namespace Flavor

/-! ## The clause of a constraint, part by part -/

/-- What extras add to a constraint: a blank and the extras without the white space at their end, or
nothing if they are blank. -/
def extrasText : Option String → String
  | none => ""
  | some extras => if isBlank extras then "" else " " ++ String.ofList (trimEnd extras.toList)

/-- The kind in upper case without the white space at its front, the columns, the extras. -/
def constraintText (f : Flavor) (c : Constraint) : String :=
  String.ofList (trimStart (upper c.kind.toList)) ++ " (" ++ f.quoteNames c.fields ++ ")" ++
    extrasText c.extras

variable {f : Flavor} {c : Constraint}

theorem extrasText_of_blank {extras : String} (h : isBlank extras = true) :
    extrasText (some extras) = "" :=
  if_pos h

theorem extrasText_of_visible {extras : String} (h : ¬ isBlank extras = true) :
    extrasText (some extras) = " " ++ String.ofList (trimEnd extras.toList) :=
  if_neg h

/-- The end of a clause is trimmed within the extras, or behind the bracket if they are blank. -/
theorem trimEnd_append_extras (cs : List Char) (extras : Option String) :
    trimEnd (cs ++ ')' :: ' ' :: (extras.getD "").toList) =
      cs ++ ')' :: (extrasText extras).toList := by
  have hbracket : trimEnd (cs ++ [')']) = cs ++ [')'] := trimEnd_concat_of_visible cs (by decide)
  have hsplit (e : String) :
      cs ++ ')' :: ' ' :: e.toList = (cs ++ [')']) ++ ([' '] ++ e.toList) := by simp
  cases extras with
  | none =>
    have hblank : ∀ c ∈ [' '] ++ "".toList, isWhite c = true :=
      List.forall_mem_singleton.mpr isWhite_space
    rw [Option.getD_none, hsplit, trimEnd_append_of_white _ hblank, hbracket]
    rfl
  | some e =>
    rw [Option.getD_some, hsplit]
    by_cases he : isBlank e = true
    · have hwhite : ∀ c ∈ [' '] ++ e.toList, isWhite c = true :=
        List.forall_mem_cons.mpr ⟨isWhite_space, isBlank_iff.mp he⟩
      rw [trimEnd_append_of_white _ hwhite, hbracket, extrasText_of_blank he]
      rfl
    · have hvisible : ¬ ∀ c ∈ e.toList, isWhite c = true := isBlank_iff.not.mp he
      rw [← List.append_assoc, trimEnd_append_of_visible _ hvisible, extrasText_of_visible he,
        String.toList_append, String.toList_ofList]
      simp

/-- **The clause is trimmed within the kind and the extras**, never in between. -/
theorem constraintClause_eq_constraintText (h : isBlank c.kind = false) :
    f.constraintClause c = f.constraintText c := by
  have hkind : ¬ ∀ x ∈ upper c.kind.toList, isWhite x = true := by
    rw [forall_isWhite_upper_iff, ← isBlank_iff, h]
    exact Bool.false_ne_true
  have hrow : (" (" ++ f.quoteNames c.fields ++ ") ").toList ++ (c.extras.getD "").toList =
      (" (" ++ f.quoteNames c.fields).toList ++ ')' :: ' ' :: (c.extras.getD "").toList := by
    simp
  rw [← String.toList_inj, constraintClause, String.toList_ofList, List.append_assoc, hrow, trim,
    trimStart_append_of_visible hkind, ← List.append_assoc, trimEnd_append_extras, constraintText]
  simp

/-! ## The last character of a clause -/

/-- The text ends in a character that is not white. -/
def EndsVisibly (s : String) : Prop := ∃ c, s.toList.getLast? = some c ∧ isWhite c = false

theorem EndsVisibly.append {t : String} (s : String) (h : EndsVisibly t) : EndsVisibly (s ++ t) := by
  obtain ⟨c, hc, hvisible⟩ := h
  refine ⟨c, ?_, hvisible⟩
  rw [String.toList_append, List.getLast?_append, hc]
  rfl

theorem endsVisibly_columnClause {column : Column} {text : String}
    (h : f.columnClause column = .ok text) : EndsVisibly text := by
  have hnull : EndsVisibly (nullClause column.nullable) := by
    cases column.nullable <;> exact ⟨'L', by decide, by decide⟩
  obtain ⟨physical, -, htext⟩ := bind_eq_ok_iff.mp h
  obtain rfl := Except.ok.inj htext
  exact hnull.append _

theorem endsVisibly_keyClause (key : List String) : EndsVisibly (f.keyClause key) :=
  EndsVisibly.append _ ⟨')', by decide, by decide⟩

/-- Extras without the white space at their end do not end in white space. -/
theorem endsVisibly_extrasText {extras : String} (h : ¬ isBlank extras = true) :
    EndsVisibly (extrasText (some extras)) := by
  rw [extrasText_of_visible h]
  refine EndsVisibly.append _ ?_
  rw [EndsVisibly, String.toList_ofList]
  cases hlast : (trimEnd extras.toList).getLast? with
  | none =>
    rw [List.getLast?_eq_none_iff] at hlast
    exact absurd (isBlank_iff.mpr (List.rdropWhile_eq_nil_iff.mp hlast)) h
  | some c => exact ⟨c, rfl, isWhite_getLast?_trimEnd hlast⟩

theorem endsVisibly_constraintText (f : Flavor) (c : Constraint) :
    EndsVisibly (f.constraintText c) := by
  have hbracket : EndsVisibly ")" := ⟨')', by decide, by decide⟩
  unfold constraintText
  cases c.extras with
  | none =>
    rw [extrasText, String.append_empty]
    exact hbracket.append _
  | some e =>
    by_cases he : isBlank e = true
    · rw [extrasText_of_blank he, String.append_empty]
      exact hbracket.append _
    · exact (endsVisibly_extrasText he).append _

/-! ## White space at the ends of a constraint -/

end Flavor

/-- `p` is the constraint `c` with white space, or none, in front of its kind and behind its extras,
which may have been absent. -/
structure Padded (c p : Constraint) : Prop where
  kind : ∃ white, isBlank white = true ∧ p.kind = white ++ c.kind
  fields : p.fields = c.fields
  extras : p.extras = c.extras ∨
    ∃ white, isBlank white = true ∧ p.extras = some (c.extras.getD "" ++ white)

namespace Flavor

/-- White space behind extras is trimmed, and absent extras are blank ones. -/
theorem extrasText_append_white (extras : Option String) {white : String}
    (h : isBlank white = true) :
    extrasText (some (extras.getD "" ++ white)) = extrasText extras := by
  cases extras with
  | none => rw [Option.getD_none, String.empty_append, extrasText_of_blank h, extrasText]
  | some e =>
    rw [Option.getD_some]
    by_cases he : isBlank e = true
    · have hall : isBlank (e ++ white) = true := by rw [isBlank_append, he, h]; rfl
      rw [extrasText_of_blank he, extrasText_of_blank hall]
    · have hall : ¬ isBlank (e ++ white) = true := by
        rw [isBlank_append, Bool.and_eq_true]
        exact fun hboth => he hboth.1
      rw [extrasText_of_visible he, extrasText_of_visible hall, String.toList_append,
        trimEnd_append_of_white _ (isBlank_iff.mp h)]

/-- **White space at the ends of a constraint leaves no trace in its clause.** -/
theorem constraintText_of_padded (f : Flavor) {c p : Constraint} (h : Padded c p) :
    f.constraintText p = f.constraintText c := by
  obtain ⟨white, hwhite, hkind⟩ := h.kind
  have hfront : trimStart (upper p.kind.toList) = trimStart (upper c.kind.toList) := by
    rw [hkind, String.toList_append, upper_append,
      trimStart_append_of_white (forall_isWhite_upper_iff.mpr (isBlank_iff.mp hwhite))]
  have hend : extrasText p.extras = extrasText c.extras := by
    rcases h.extras with hextras | ⟨white, hwhite, hextras⟩
    · rw [hextras]
    · rw [hextras, extrasText_append_white _ hwhite]
  rw [constraintText, constraintText, hfront, h.fields, hend]

end Flavor

/-! ## Padded constraints in a specification -/

namespace Draft

theorem ValidConstraint.of_padded {names : List String} {c p : Constraint}
    (hc : ValidConstraint names c) (h : Padded c p) : ValidConstraint names p := by
  obtain ⟨hkind, hfields, hmapped⟩ := hc
  obtain ⟨white, -, hp⟩ := h.kind
  refine ⟨?_, h.fields ▸ hfields, h.fields ▸ hmapped⟩
  rw [hp, isBlank_append, hkind, Bool.and_false]

/-- White space at the ends of constraints leaves a draft valid. -/
theorem Valid.of_padded {d : Draft} (hd : d.Valid) {padded : List Constraint}
    (h : List.Forall₂ Padded d.constraints padded) : { d with constraints := padded }.Valid :=
  { hd with
    constraint_valid := fun p hp => by
      obtain ⟨c, hc, hpadded⟩ := exists_mem_of_forall₂ h.flip hp
      exact (hd.constraint_valid c hc).of_padded hpadded }

end Draft

namespace Flavor

theorem map_constraintClause_eq (f : Flavor) (s : Specification) :
    s.constraints.map f.constraintClause = s.constraints.map f.constraintText :=
  List.map_congr_left fun c hc =>
    constraintClause_eq_constraintText (s.valid.constraint_valid c hc).1

/-- The clauses of a table, with those of the constraints part by part. -/
theorem clauses_eq (f : Flavor) (s : Specification) :
    f.clauses s = (s.columns.mapM f.columnClause).map fun columns =>
      columns ++ f.keyClause s.key :: s.constraints.map f.constraintText := by
  rw [clauses, map_constraintClause_eq]
  cases s.columns.mapM f.columnClause <;> rfl

theorem map_constraintText_of_padded (f : Flavor) {constraints padded : List Constraint}
    (h : List.Forall₂ Padded constraints padded) :
    padded.map f.constraintText = constraints.map f.constraintText := by
  induction h with
  | nil => rfl
  | cons hpadded _ ih => rw [List.map_cons, List.map_cons, f.constraintText_of_padded hpadded, ih]

/-- **Constraints are trimmed at their ends and nowhere else.** A statement joins its clauses as they
are. The clause of every constraint is its kind in upper case without the white space in front, its
columns in brackets, and its extras without the white space behind them, or nothing where these are
absent or blank. No clause of the table ends in white space; and with white space in front of kinds
and behind extras, absent extras included, the table is accepted as it was and has the same
statement. -/
theorem trimmed_at_the_ends (f : Flavor) (s : Specification) :
    (f.createTable s = (f.clauses s).map fun clauses =>
        "CREATE TABLE " ++ s.name ++ " (" ++ ", ".intercalate clauses ++ ")") ∧
      (f.clauses s = (s.columns.mapM f.columnClause).map fun columns =>
          columns ++ f.keyClause s.key :: s.constraints.map fun c =>
            String.ofList (trimStart (upper c.kind.toList)) ++ " (" ++ f.quoteNames c.fields ++ ")" ++
              extrasText c.extras) ∧
      (∀ clauses, f.clauses s = .ok clauses → ∀ clause ∈ clauses, EndsVisibly clause) ∧
      ∀ padded, List.Forall₂ Padded s.constraints padded →
        ∃ t : Specification, t.toDraft = { s.toDraft with constraints := padded } ∧
          f.createTable t = f.createTable s := by
  refine ⟨rfl, f.clauses_eq s, fun clauses hclauses => ?_, fun padded hpadded => ?_⟩
  · rw [clauses_eq, map_eq_ok_iff] at hclauses
    obtain ⟨columns, hcolumns, rfl⟩ := hclauses
    intro clause hmem
    rcases List.mem_append.mp hmem with hmem | hmem
    · have hrendered := (mapM_eq_ok_iff_forall₂.mp hcolumns).flip
      obtain ⟨column, -, hcolumn⟩ := exists_mem_of_forall₂ hrendered hmem
      exact endsVisibly_columnClause hcolumn
    · rcases List.mem_cons.mp hmem with rfl | hmem
      · exact endsVisibly_keyClause s.key
      · obtain ⟨c, -, rfl⟩ := List.mem_map.mp hmem
        exact f.endsVisibly_constraintText c
  · refine ⟨⟨_, s.valid.of_padded hpadded⟩, rfl, ?_⟩
    rw [createTable, createTable, clauses_eq, clauses_eq, map_constraintText_of_padded f hpadded]

/-- A unique index, with an ideographic blank in front of its kind and no extras. -/
def spacedIndex : Constraint := ⟨"\u3000unique", ["a "], none⟩

/-- The same with a tab in front of that and a wide blank for extras. -/
def paddedIndex : Constraint := ⟨"\t\u3000unique", ["a "], some "\u2003"⟩

/-- A table of one column, whose name ends in white space, with the index over it. -/
def spacedTable : Specification :=
  ⟨⟨"t", [⟨"a ", .uuid, false⟩], ["a "], [spacedIndex]⟩,
    Draft.valid_of_fault?_eq_none (by decide)⟩

theorem padded_paddedIndex : Padded spacedIndex paddedIndex where
  kind := ⟨"\t", by decide, by decide⟩
  fields := rfl
  extras := .inr ⟨"\u2003", by decide, by decide⟩

/-- The clause has none of these blanks but the one in the name of the column, and so it stands in the
statement. -/
theorem trimmed_at_the_ends_of_index :
    Dialect.sqlite.flavor.clauses spacedTable =
        .ok ["\"a \" TEXT NOT NULL", "PRIMARY KEY (\"a \")", "UNIQUE (\"a \")"] ∧
      EndsVisibly "UNIQUE (\"a \")" ∧
      Dialect.sqlite.flavor.createTable spacedTable =
        .ok "CREATE TABLE t (\"a \" TEXT NOT NULL, PRIMARY KEY (\"a \"), UNIQUE (\"a \"))" ∧
      List.Forall₂ Padded spacedTable.constraints [paddedIndex] ∧
      ∃ t : Specification, t.toDraft = { spacedTable.toDraft with constraints := [paddedIndex] } ∧
        Dialect.sqlite.flavor.createTable t = Dialect.sqlite.flavor.createTable spacedTable := by
  have hclauses : Dialect.sqlite.flavor.clauses spacedTable =
      .ok ["\"a \" TEXT NOT NULL", "PRIMARY KEY (\"a \")", "UNIQUE (\"a \")"] := by rfl
  have hpadded : List.Forall₂ Padded spacedTable.constraints [paddedIndex] :=
    .cons padded_paddedIndex .nil
  obtain ⟨htext, -, hends, hsame⟩ := trimmed_at_the_ends Dialect.sqlite.flavor spacedTable
  rw [hclauses] at htext
  exact ⟨hclauses, hends _ hclauses _ (by simp), htext, hpadded, hsame _ hpadded⟩

end Flavor

end TableScript
