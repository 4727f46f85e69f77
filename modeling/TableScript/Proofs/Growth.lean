import Mathlib.Data.List.Nodup
import TableScript.Proofs.FirstFault
import TableScript.Proofs.Interleaving

/-!
# Building further

What more calls do to a draft that is built already, or refused. Columns and constraints only come
behind those that are there, so a fault of the table's name or of a column is still the first one
after any call, and after any run of calls. Every other fault gives way to a column without a name.

Results:
* `Draft.FirstFault.apply_of_lasting`: a `Lasting` fault is still the first after one more call, and
  `Draft.FirstFault.run_of_lasting`: after any number of them.
* `Draft.FirstFault.hidden_of_not_lasting`: any other fault is hidden by a column without a name.
* `Draft.Valid.addColumn`: a valid draft stays valid with a column of a new name.
* `Draft.Valid.addConstraint`: so it does with a constraint over some of its columns.
* `Draft.faults_last_and_specifications_grow`: what this means for the tables that calls build, and
  for looking up their columns.
-/

namespace TableScript

namespace Draft

variable {d : Draft} {f : Fault} {c : Column} {k : Constraint}

theorem run_append (d : Draft) (calls more : List Call) :
    d.run (calls ++ more) = (d.run calls).run more := List.foldl_append

theorem name_run (d : Draft) (calls : List Call) : (d.run calls).name = d.name := by rw [run_eq]

/-! ## Faults that last -/

/-- Faults of the table's name and of its columns. -/
inductive Fault.Lasting : Fault → Prop where
  | blankTableName : Lasting .blankTableName
  | emptyColumnName : Lasting .emptyColumnName
  | repeatedColumn (name : String) : Lasting (.repeatedColumn name)

theorem ColumnFault.lasting {before : List Column} (h : ColumnFault before c f) : f.Lasting := by
  cases h with
  | unnamed => exact .emptyColumnName
  | repeated => exact .repeatedColumn c.name

/-- A fault that lasts comes before the key and the constraints. -/
theorem FirstFault.of_lasting (h : d.FirstFault f) (hlasting : f.Lasting) :
    Text.isBlank d.name = true ∧ f = .blankTableName ∨
      Text.isBlank d.name = false ∧ FirstIn ColumnFault d.columns f := by
  cases h with
  | blankTableName hname => exact .inl ⟨hname, rfl⟩
  | noColumns => cases hlasting
  | column hname hfirst => exact .inr ⟨hname, hfirst⟩
  | emptyKey => cases hlasting
  | key _ hfirst =>
    obtain ⟨_, _, _, -, -, hk⟩ := hfirst
    cases hk <;> cases hlasting
  | constraint _ hfirst =>
    obtain ⟨_, _, _, -, -, hc⟩ := hfirst
    cases hc <;> cases hlasting

/-- With a fault that does not last, the name and the columns are in order. -/
theorem FirstFault.columns_faultless (h : d.FirstFault f) (hlasting : ¬ f.Lasting) :
    Text.isBlank d.name = false ∧ Faultless ColumnFault d.columns := by
  cases h with
  | blankTableName => exact absurd .blankTableName hlasting
  | noColumns hname hnil => exact ⟨hname, hnil ▸ faultless_nil⟩
  | column _ hfirst =>
    obtain ⟨_, _, _, -, -, hc⟩ := hfirst
    exact absurd hc.lasting hlasting
  | emptyKey hsound => exact ⟨hsound.name_visible, hsound.columns_faultless⟩
  | key hsound => exact ⟨hsound.name_visible, hsound.columns_faultless⟩
  | constraint hsound => exact ⟨hsound.name_visible, hsound.columns_faultless⟩

/-- **A fault that lasts is still the first after one more call.** -/
theorem FirstFault.apply_of_lasting (h : d.FirstFault f) (hlasting : f.Lasting) (call : Call) :
    (d.apply call).FirstFault f := by
  rw [apply_eq]
  rcases h.of_lasting hlasting with ⟨hname, rfl⟩ | ⟨hname, hfirst⟩
  · exact .blankTableName hname
  · exact .column hname (hfirst.append _)

theorem FirstFault.run_of_lasting (h : d.FirstFault f) (hlasting : f.Lasting)
    (more : List Call) : (d.run more).FirstFault f := by
  induction more generalizing d with
  | nil => exact h
  | cons call more ih => exact ih (h.apply_of_lasting hlasting call)

/-- A fault that does not last is hidden by a column without a name. -/
theorem FirstFault.hidden_of_not_lasting (h : d.FirstFault f) (hlasting : ¬ f.Lasting)
    (hc : c.name = "") : (d.addColumn c).FirstFault .emptyColumnName := by
  obtain ⟨hname, hfaultless⟩ := h.columns_faultless hlasting
  exact .column hname (firstIn_concat_iff.mpr (.inr ⟨hfaultless, .unnamed hc⟩))

/-! ## Drafts that stay valid -/

theorem columnNames_addColumn (d : Draft) (c : Column) :
    (d.addColumn c).columnNames = d.columnNames ++ [c.name] := List.map_append

theorem ValidConstraint.mono {names names' : List String} (h : ValidConstraint names k)
    (hnames : names ⊆ names') : ValidConstraint names' k :=
  ⟨h.1, h.2.1, fun name hname => hnames (h.2.2 name hname)⟩

/-- **A valid draft stays valid with a column of a new name.** -/
theorem Valid.addColumn (h : d.Valid) (hname : c.name ≠ "") (hfresh : c.name ∉ d.columnNames) :
    (d.addColumn c).Valid := by
  have hnames : d.columnNames ⊆ (d.addColumn c).columnNames := by
    rw [columnNames_addColumn]
    exact List.subset_append_left _ _
  exact {
    name_visible := h.name_visible
    columns_ne_nil := List.append_ne_nil_of_left_ne_nil h.columns_ne_nil _
    column_named := fun b hb => by
      rcases List.mem_append.mp hb with hb | hb
      · exact h.column_named b hb
      · rwa [List.mem_singleton.mp hb]
    columns_nodup := by
      rw [columnNames_addColumn, ← List.concat_eq_append]
      exact List.Nodup.concat hfresh h.columns_nodup
    key_ne_nil := h.key_ne_nil
    key_mapped := fun x hx => hnames (h.key_mapped x hx)
    key_nodup := h.key_nodup
    constraint_valid := fun b hb => (h.constraint_valid b hb).mono hnames }

/-- **A valid draft stays valid with a constraint over its columns.** -/
theorem Valid.addConstraint (h : d.Valid) (hk : ValidConstraint d.columnNames k) :
    (d.addConstraint k).Valid :=
  { h with
    constraint_valid := fun b hb => by
      rcases List.mem_append.mp hb with hb | hb
      · exact h.constraint_valid b hb
      · rw [List.mem_singleton.mp hb]
        exact hk }

theorem apply_of_column? {call : Call} (h : call.column? = some c) :
    d.apply call = d.addColumn c := by
  cases call <;> cases h <;> rfl

end Draft

/-! ## Looking up a column among more -/

namespace Specification

variable {s t : Specification} {c : Column}

theorem column?_of_append_ne (h : t.columns = s.columns ++ [c]) {name : String}
    (hname : name ≠ c.name) : t.column? name = s.column? name := by
  rw [column?, column?, h, List.find?_append, List.find?_singleton,
    if_neg (by simpa using hname.symm), Option.or_none]

theorem column?_of_append_self (h : t.columns = s.columns ++ [c])
    (hfresh : c.name ∉ s.columnNames) : t.column? c.name = some c := by
  have hnone : s.columns.find? (fun b => b.name == c.name) = none :=
    List.find?_eq_none.mpr fun b hb hname =>
      hfresh (List.mem_map.mpr ⟨b, hb, eq_of_beq hname⟩)
  rw [column?, h, List.find?_append, hnone, Option.none_or, List.find?_singleton,
    if_pos (beq_self_eq_true c.name)]

end Specification

namespace Draft

/-! ## Runs that go on -/

/-- What a run of calls on a new table builds. -/
def built (name : String) (calls : List Call) : Except Error Specification :=
  ((start name).run calls).build

theorem built_eq_error_iff {name : String} {calls : List Call} :
    built name calls = .error (.invalidSpecification name f) ↔
      ((start name).run calls).FirstFault f := by
  rw [built, build_eq_error_iff, name_run]
  simp [start]

/-- **Faults of the name and of a column last, and a specification grows by what is added.** If a
run of calls on a new table is refused, then every longer run is refused in the same way exactly if
the fault is of the name or of a column. If it is built, then it is built again with one more column
of a name that is not used so far, and with one more constraint of a kind that is not blank over
some of the columns; nothing else changes, and every other name finds what it found before. -/
theorem faults_last_and_specifications_grow (name : String) (calls : List Call) :
    (∀ f, built name calls = .error (.invalidSpecification name f) →
        (f.Lasting ↔
          ∀ more, built name (calls ++ more) = .error (.invalidSpecification name f))) ∧
      ∀ s, built name calls = .ok s →
        (∀ call c, call.column? = some c → c.name ≠ "" → c.name ∉ s.columnNames →
          ∃ t, built name (calls ++ [call]) = .ok t ∧
            t.toDraft = { s.toDraft with columns := s.columns ++ [c] } ∧
            t.column? c.name = some c ∧ ∀ n, n ≠ c.name → t.column? n = s.column? n) ∧
        ∀ k : Constraint, Text.isBlank k.kind = false → k.fields ≠ [] →
          (∀ field ∈ k.fields, field ∈ s.columnNames) →
            ∃ t, built name (calls ++ [.constraint k]) = .ok t ∧
              t.toDraft = { s.toDraft with constraints := s.constraints ++ [k] } ∧
              ∀ n, t.column? n = s.column? n := by
  constructor
  · intro f hrefused
    have hfirst := built_eq_error_iff.mp hrefused
    constructor
    · intro hlasting more
      rw [built_eq_error_iff, run_append]
      exact hfirst.run_of_lasting hlasting more
    · intro hmore
      by_contra hlasting
      have hhidden := hfirst.hidden_of_not_lasting hlasting (c := ⟨"", .uuid, false⟩) rfl
      have hsame := hmore [.field "" .uuid]
      rw [built_eq_error_iff, run_append] at hsame
      have hfault := (fault?_eq_some_iff.mpr hhidden).symm.trans (fault?_eq_some_iff.mpr hsame)
      exact hlasting (Option.some.inj hfault ▸ .emptyColumnName)
  · intro s hbuilt
    obtain ⟨hvalid, hdraft⟩ := build_eq_ok_iff.mp hbuilt
    rw [← hdraft] at hvalid
    have hnext (call : Call) : built name (calls ++ [call]) = (s.toDraft.apply call).build := by
      rw [built, run_append, hdraft]
      rfl
    constructor
    · intro call c hcall hname hfresh
      refine ⟨⟨_, hvalid.addColumn hname hfresh⟩, ?_, rfl, ?_, fun n hn => ?_⟩
      · rw [hnext, apply_of_column? hcall, build_eq_ok_iff]
        exact ⟨hvalid.addColumn hname hfresh, rfl⟩
      · exact Specification.column?_of_append_self rfl hfresh
      · exact Specification.column?_of_append_ne rfl hn
    · intro k hkind hfields hmapped
      refine ⟨⟨_, hvalid.addConstraint ⟨hkind, hfields, hmapped⟩⟩, ?_, rfl, fun n => rfl⟩
      rw [hnext, build_eq_ok_iff]
      exact ⟨hvalid.addConstraint ⟨hkind, hfields, hmapped⟩, rfl⟩

/-- A column that is there twice is reported whatever comes behind it, also where a constraint in
front of it names no column; a table with a key takes another column and a constraint on it. -/
theorem grows_by_column_and_constraint :
    built "t" [.constraint ⟨"key", ["x"], none⟩, .field "a" .uuid, .field "a" .text, .key ["a"],
        .field "x" .text] = .error (.invalidSpecification "t" (.repeatedColumn "a")) ∧
      ∃ t, built "t" [.field "id" .uuid, .key ["id"], .nullableField "bio" .text,
          .constraint ⟨"key", ["bio"], none⟩] = .ok t ∧
        t.toDraft = ⟨"t", [⟨"id", .uuid, false⟩, ⟨"bio", .text, true⟩], ["id"],
          [⟨"key", ["bio"], none⟩]⟩ ∧
        t.column? "bio" = some ⟨"bio", .text, true⟩ ∧
        t.column? "id" = some ⟨"id", .uuid, false⟩ := by
  have hrefused : built "t" [.constraint ⟨"key", ["x"], none⟩, .field "a" .uuid,
      .field "a" .text] = .error (.invalidSpecification "t" (.repeatedColumn "a")) := rfl
  have hlast := (faults_last_and_specifications_grow "t" _).1 _ hrefused
  refine ⟨hlast.mp (.repeatedColumn "a") [.key ["a"], .field "x" .text], ?_⟩
  have hkeyed : built "t" [.field "id" .uuid, .key ["id"]] =
      .ok ⟨⟨"t", [⟨"id", .uuid, false⟩], ["id"], []⟩, valid_of_fault?_eq_none rfl⟩ := rfl
  obtain ⟨s, hs, hsdraft, hself, hother⟩ :=
    ((faults_last_and_specifications_grow "t" _).2 _ hkeyed).1 (.nullableField "bio" .text) _ rfl
      (by decide) (by decide)
  have hbio : "bio" ∈ s.columnNames := by
    rw [hsdraft]
    decide
  obtain ⟨t, ht, htdraft, hsame⟩ :=
    ((faults_last_and_specifications_grow "t" _).2 _ hs).2 ⟨"key", ["bio"], none⟩ (by decide)
      (by decide) (List.forall_mem_singleton.mpr hbio)
  refine ⟨t, ht, by rw [htdraft, hsdraft]; rfl, ?_, ?_⟩
  · rw [hsame]
    exact hself
  · rw [hsame, hother "id" (by decide)]
    rfl

end Draft

end TableScript
