import TableScript.FieldType
import TableScript.Text.White

/-!
# Table specifications

A `Draft` is the parts of a table as they were given; a `Specification` is a draft that is known to
be valid. `Draft.Valid` says what that means, and `Draft.fault?` finds the first thing that is
wrong.

* The search goes through the name, the columns, the key and the constraints in this order, and
  through each list once, with the names that it has seen (`columnFault?`, `keyFault?`,
  `constraintFault?`).
* `Draft.Fault.message` is the sentence for a fault.
* `Specification.ofDraft` lets in the drafts without a fault, as they are.

Main statement: `Draft.valid_of_fault?_eq_none`, a draft without a fault is valid, which is what a
`Specification` is built from.
-/

namespace TableScript

/-- One column of a table. -/
structure Column where
  name : String
  type : FieldType
  nullable : Bool
  deriving DecidableEq

/-- A secondary constraint over some columns. The kind is written in upper case, and the extras
follow the column list as they are. -/
structure Constraint where
  kind : String
  fields : List String
  extras : Option String
  deriving DecidableEq

/-- The parts of a table, in order: its columns, the names of its key columns, its constraints. -/
structure Draft where
  name : String
  columns : List Column
  key : List String
  constraints : List Constraint
  deriving DecidableEq

/-- What makes a draft invalid. -/
inductive Draft.Fault where
  | blankTableName
  | noColumns
  | emptyColumnName
  | repeatedColumn (name : String)
  | emptyKey
  | unknownKeyColumn (name : String)
  | repeatedKeyColumn (name : String)
  | blankConstraintKind
  | emptyConstraint (kind : String)
  | unknownConstraintColumn (kind name : String)
  deriving DecidableEq

def Draft.Fault.message : Draft.Fault → String
  | .blankTableName => "table name must not be empty"
  | .noColumns => "at least one field mapping is required"
  | .emptyColumnName => "field names must not be empty"
  | .repeatedColumn name => "duplicate field '" ++ name ++ "'"
  | .emptyKey => "id_fields must not be empty"
  | .unknownKeyColumn name => "id field '" ++ name ++ "' is not a mapped field"
  | .repeatedKeyColumn name => "id field '" ++ name ++ "' listed twice"
  | .blankConstraintKind => "constraint type must not be empty"
  | .emptyConstraint kind => kind ++ " constraint must name at least one field"
  | .unknownConstraintColumn kind name =>
    kind ++ " constraint references unknown field '" ++ name ++ "'"

namespace Draft

def columnNames (d : Draft) : List String := d.columns.map (·.name)

/-- The constraint has a kind and names columns of the table, at least one. -/
def ValidConstraint (names : List String) (c : Constraint) : Prop :=
  Text.isBlank c.kind = false ∧ c.fields ≠ [] ∧ ∀ f ∈ c.fields, f ∈ names

/-- The table has a name; its columns have names of their own; its key is made of some of its
columns, each once; every constraint covers some of its columns. -/
structure Valid (d : Draft) : Prop where
  name_visible : Text.isBlank d.name = false
  columns_ne_nil : d.columns ≠ []
  column_named : ∀ c ∈ d.columns, c.name ≠ ""
  columns_nodup : d.columnNames.Nodup
  key_ne_nil : d.key ≠ []
  key_mapped : ∀ k ∈ d.key, k ∈ d.columnNames
  key_nodup : d.key.Nodup
  constraint_valid : ∀ c ∈ d.constraints, ValidConstraint d.columnNames c

/-! ## The first fault -/

/-- The first column without a name, or with the name of a column before it. -/
def columnFault? (seen : List String) : List Column → Option Fault
  | [] => none
  | c :: rest =>
    if c.name = "" then some .emptyColumnName
    else if c.name ∈ seen then some (.repeatedColumn c.name)
    else columnFault? (c.name :: seen) rest

/-- The first name in the key that is no column, or that is in the key before. -/
def keyFault? (names seen : List String) : List String → Option Fault
  | [] => none
  | k :: rest =>
    if k ∉ names then some (.unknownKeyColumn k)
    else if k ∈ seen then some (.repeatedKeyColumn k)
    else keyFault? names (k :: seen) rest

/-- What is wrong with one constraint: its kind first, then its columns. -/
def constraintFault? (names : List String) (c : Constraint) : Option Fault :=
  if Text.isBlank c.kind then some .blankConstraintKind
  else if c.fields = [] then some (.emptyConstraint c.kind)
  else (c.fields.find? fun f => decide (f ∉ names)).map (.unknownConstraintColumn c.kind)

/-- The first fault: of the name, the columns, the key and the constraints, in this order, and each
list from left to right. -/
def fault? (d : Draft) : Option Fault :=
  if Text.isBlank d.name then some .blankTableName
  else if d.columns = [] then some .noColumns
  else
    (columnFault? [] d.columns).or <|
      if d.key = [] then some .emptyKey
      else
        (keyFault? d.columnNames [] d.key).or
          (d.constraints.findSome? (constraintFault? d.columnNames))

/-! ### A draft without a fault is valid -/

theorem columnFault?_eq_none {columns : List Column} :
    ∀ {seen : List String}, columnFault? seen columns = none →
      (∀ c ∈ columns, c.name ≠ "" ∧ c.name ∉ seen) ∧ (columns.map (·.name)).Nodup := by
  induction columns with
  | nil => intro seen _; simp
  | cons c rest ih =>
    intro seen h
    simp only [columnFault?] at h
    split at h
    · cases h
    · next hne =>
      split at h
      · cases h
      · next hseen =>
        obtain ⟨hall, hnodup⟩ := ih h
        refine ⟨?_, ?_⟩
        · intro x hx
          rcases List.mem_cons.mp hx with rfl | hx
          · exact ⟨hne, hseen⟩
          · exact ⟨(hall x hx).1, fun hs => (hall x hx).2 (List.mem_cons_of_mem _ hs)⟩
        · rw [List.map_cons, List.nodup_cons]
          refine ⟨?_, hnodup⟩
          intro hmem
          obtain ⟨x, hx, hxe⟩ := List.mem_map.mp hmem
          exact (hall x hx).2 (hxe ▸ List.mem_cons_self)

theorem keyFault?_eq_none {names key : List String} :
    ∀ {seen : List String}, keyFault? names seen key = none →
      (∀ k ∈ key, k ∈ names ∧ k ∉ seen) ∧ key.Nodup := by
  induction key with
  | nil => intro seen _; simp
  | cons k rest ih =>
    intro seen h
    simp only [keyFault?] at h
    split at h
    · cases h
    · next hmem =>
      split at h
      · cases h
      · next hseen =>
        obtain ⟨hall, hnodup⟩ := ih h
        refine ⟨?_, List.nodup_cons.mpr ⟨fun hk => (hall k hk).2 List.mem_cons_self, hnodup⟩⟩
        intro x hx
        rcases List.mem_cons.mp hx with rfl | hx
        · exact ⟨Decidable.of_not_not hmem, hseen⟩
        · exact ⟨(hall x hx).1, fun hs => (hall x hx).2 (List.mem_cons_of_mem _ hs)⟩

theorem constraintFault?_eq_none {names : List String} {c : Constraint}
    (h : constraintFault? names c = none) : ValidConstraint names c := by
  unfold constraintFault? at h
  split at h
  · cases h
  · next hkind =>
    split at h
    · cases h
    · next hfields =>
      refine ⟨by simpa using hkind, hfields, ?_⟩
      intro f hf
      have hnone := List.find?_eq_none.mp (Option.map_eq_none_iff.mp h) f hf
      simpa using hnone

theorem valid_of_fault?_eq_none {d : Draft} (h : d.fault? = none) : d.Valid := by
  unfold fault? at h
  split at h
  · cases h
  · next hname =>
    split at h
    · cases h
    · next hcolumns =>
      rw [Option.or_eq_none_iff] at h
      obtain ⟨hcolumn, h⟩ := h
      split at h
      · cases h
      · next hkey =>
        rw [Option.or_eq_none_iff] at h
        obtain ⟨hkeys, hconstraints⟩ := h
        obtain ⟨hcs, hcsn⟩ := columnFault?_eq_none hcolumn
        obtain ⟨hks, hksn⟩ := keyFault?_eq_none hkeys
        exact {
          name_visible := by simpa using hname
          columns_ne_nil := hcolumns
          column_named := fun c hc => (hcs c hc).1
          columns_nodup := hcsn
          key_ne_nil := hkey
          key_mapped := fun k hk => (hks k hk).1
          key_nodup := hksn
          constraint_valid := fun c hc =>
            constraintFault?_eq_none (List.findSome?_eq_none_iff.mp hconstraints c hc) }

end Draft

/-- A complete description of one table. -/
structure Specification extends Draft where
  valid : toDraft.Valid
  deriving DecidableEq

namespace Specification

/-- The draft as a specification, or its first fault. -/
def ofDraft (d : Draft) : Except Draft.Fault Specification :=
  match h : d.fault? with
  | none => .ok ⟨d, Draft.valid_of_fault?_eq_none h⟩
  | some fault => .error fault

/-- The column of that name. -/
def column? (s : Specification) (name : String) : Option Column :=
  s.columns.find? fun c => c.name == name

end Specification

end TableScript
