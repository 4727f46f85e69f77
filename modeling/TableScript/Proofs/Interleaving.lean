import Mathlib.Data.List.Forall2
import TableScript.Proofs.Acceptance
import TableScript.Proofs.Traversal

/-!
# Records call by call

A record description names the columns, the key and the constraints of its table all at once; the
calls of a builder name them one at a time. How calls of different sorts are mixed (`Merge`) does
not show in what they leave behind, so all the ways in which calls may spell out a record (`Spells`)
build the same.

Results:
* `Merge.filterMap`: what is picked from a merge is a merge of what is picked from its parts.
* `Draft.run_eq`: a run of calls leaves the columns and the constraints of its calls, each in order,
  and the last of its keys.
* `RecordDescription.Spells.run_start`: spelled out in any order, a record leaves the draft that it
  is analyzed from.
* `RecordDescription.analyze_of_unknown`: the first field of an unknown type is reported before
  every other fault; `RecordDescription.exists_spells`: without one, there are calls that spell out
  the record.
* `RecordDescription.build_eq_analyze`: a record is analyzed to what its calls build, in whatever
  order they are made.
-/

namespace TableScript

/-! ## Merging lists -/

/-- The third list is made of the elements of the other two, each list in its own order. -/
inductive Merge {α : Type} : List α → List α → List α → Prop where
  | nil : Merge [] [] []
  | left {x : α} {xs ys zs : List α} : Merge xs ys zs → Merge (x :: xs) ys (x :: zs)
  | right {y : α} {xs ys zs : List α} : Merge xs ys zs → Merge xs (y :: ys) (y :: zs)

namespace Merge

variable {α β : Type} {xs ys zs : List α}

theorem append (xs ys : List α) : Merge xs ys (xs ++ ys) := by
  induction xs with
  | nil =>
    induction ys with
    | nil => exact .nil
    | cons y ys ih => exact ih.right
  | cons x xs ih => exact ih.left

theorem eq_of_nil_left (h : Merge [] ys zs) : zs = ys := by
  induction ys generalizing zs with
  | nil =>
    cases h
    rfl
  | cons y ys ih =>
    cases h with
    | right h => rw [ih h]

theorem eq_of_nil_right (h : Merge xs [] zs) : zs = xs := by
  induction xs generalizing zs with
  | nil =>
    cases h
    rfl
  | cons x xs ih =>
    cases h with
    | left h => rw [ih h]

/-- What is picked from a merge is a merge of what is picked from its parts. -/
theorem filterMap (g : α → Option β) (h : Merge xs ys zs) :
    Merge (xs.filterMap g) (ys.filterMap g) (zs.filterMap g) := by
  induction h with
  | nil => exact .nil
  | @left x _ _ _ _ ih =>
    cases hx : g x with
    | none =>
      rw [List.filterMap_cons_none hx, List.filterMap_cons_none hx]
      exact ih
    | some a =>
      rw [List.filterMap_cons_some hx, List.filterMap_cons_some hx]
      exact ih.left
  | @right y _ _ _ _ ih =>
    cases hy : g y with
    | none =>
      rw [List.filterMap_cons_none hy, List.filterMap_cons_none hy]
      exact ih
    | some b =>
      rw [List.filterMap_cons_some hy, List.filterMap_cons_some hy]
      exact ih.right

/-- Where nothing is picked from the second part, the first part decides. -/
theorem filterMap_eq_left {g : α → Option β} (h : Merge xs ys zs)
    (hys : ys.filterMap g = []) : zs.filterMap g = xs.filterMap g := by
  have hpicked := h.filterMap g
  rw [hys] at hpicked
  exact hpicked.eq_of_nil_right

/-- Where nothing is picked from the first part, the second part decides. -/
theorem filterMap_eq_right {g : α → Option β} (h : Merge xs ys zs)
    (hxs : xs.filterMap g = []) : zs.filterMap g = ys.filterMap g := by
  have hpicked := h.filterMap g
  rw [hxs] at hpicked
  exact hpicked.eq_of_nil_left

end Merge

/-! ## What a run of calls leaves -/

namespace Draft

/-- The column that a call adds. -/
def Call.column? : Call → Option Column
  | .field name type => some ⟨name, type, false⟩
  | .nullableField name type => some ⟨name, type, true⟩
  | .column c => some c
  | .key _ => none
  | .constraint _ => none

/-- The key that a call sets. -/
def Call.key? : Call → Option (List String)
  | .key names => some names
  | _ => none

/-- The constraint that a call adds. -/
def Call.constraint? : Call → Option Constraint
  | .constraint c => some c
  | _ => none

theorem apply_eq (d : Draft) (call : Call) :
    d.apply call = ⟨d.name, d.columns ++ call.column?.toList, call.key?.getD d.key,
      d.constraints ++ call.constraint?.toList⟩ := by
  cases call <;>
    simp [apply, field, nullableField, addColumn, keyedBy, addConstraint, Call.column?, Call.key?,
      Call.constraint?]

/-- **A run adds the columns and the constraints of its calls, each in order, and keeps the last of
their keys.** -/
theorem run_eq (d : Draft) (calls : List Call) :
    d.run calls = ⟨d.name, d.columns ++ calls.filterMap Call.column?,
      (calls.filterMap Call.key?).getLastD d.key,
      d.constraints ++ calls.filterMap Call.constraint?⟩ := by
  induction calls generalizing d with
  | nil => simp [run]
  | cons call rest ih =>
    have hstep : d.run (call :: rest) = (d.apply call).run rest := rfl
    rw [hstep, ih, apply_eq]
    cases call <;>
      simp only [List.filterMap_cons, Call.column?, Call.key?, Call.constraint?,
        Option.toList_some, Option.toList_none, Option.getD_some, Option.getD_none,
        List.append_assoc, List.singleton_append, List.append_nil, List.getLastD_cons]

end Draft

/-! ## Types that are known -/

theorem FieldType.ofName?_eq_none {name : String} (h : name ∉ FieldType.all.map FieldType.name) :
    FieldType.ofName? name = none := by
  refine List.find?_eq_none.mpr fun type htype hname => h ?_
  exact List.mem_map.mpr ⟨type, htype, eq_of_beq hname⟩

theorem FieldType.exists_ofName?_eq {name : String}
    (h : name ∈ FieldType.all.map FieldType.name) : ∃ type, FieldType.ofName? name = some type := by
  obtain ⟨type, -, rfl⟩ := List.mem_map.mp h
  exact ⟨type, FieldType.ofName?_name type⟩

namespace RecordDescription

/-- The type of the field is one of the known types. -/
def HasKnownType (f : FieldDescription) : Prop := f.type ∈ FieldType.all.map FieldType.name

instance (f : FieldDescription) : Decidable (HasKnownType f) :=
  inferInstanceAs (Decidable (f.type ∈ FieldType.all.map FieldType.name))

theorem column_of_unknown {f : FieldDescription} (h : ¬ HasKnownType f) :
    column f = .error (.unknownFieldType f.type) := by
  unfold column FieldType.parse
  rw [FieldType.ofName?_eq_none h]
  rfl

theorem column_of_ofName? {f : FieldDescription} {type : FieldType}
    (h : FieldType.ofName? f.type = some type) : column f = .ok ⟨f.name, type, f.nullable⟩ := by
  unfold column FieldType.parse
  rw [h]
  rfl

/-! ## Calls that spell out a record -/

/-- The calls that add the column of a field. -/
inductive AddsField (f : FieldDescription) : Draft.Call → Prop where
  | notNull {type : FieldType} :
      FieldType.ofName? f.type = some type → f.nullable = false → AddsField f (.field f.name type)
  | nullable {type : FieldType} :
      FieldType.ofName? f.type = some type → f.nullable = true →
        AddsField f (.nullableField f.name type)
  | whole {type : FieldType} :
      FieldType.ofName? f.type = some type → AddsField f (.column ⟨f.name, type, f.nullable⟩)

/-- The key that a record asks for: the one that it gives, which may be empty, or else the fields
that it marks. -/
def askedKey (r : RecordDescription) : List String :=
  r.key?.getD (r.fields.filterMap fun f => if f.primaryKey then some f.name else none)

/-- A call for every field and for every constraint, each in order, and any number of calls for the
key, the right one last; all three sorts of calls are mixed in any way. A record without a key needs
no call for it. -/
inductive Spells (r : RecordDescription) : List Draft.Call → Prop where
  | mixed {columns others calls : List Draft.Call} {keys : List (List String)} :
      List.Forall₂ AddsField r.fields columns →
      keys.getLastD [] = r.askedKey →
      Merge (keys.map .key) (r.constraints.map .constraint) others →
      Merge columns others calls →
      Spells r calls

theorem AddsField.column?_eq {f : FieldDescription} {call : Draft.Call} (h : AddsField f call) :
    ∃ c, call.column? = some c ∧ column f = .ok c := by
  cases h with
  | notNull htype hnull => exact ⟨_, rfl, by rw [column_of_ofName? htype, hnull]⟩
  | nullable htype hnull => exact ⟨_, rfl, by rw [column_of_ofName? htype, hnull]⟩
  | whole htype => exact ⟨_, rfl, column_of_ofName? htype⟩

theorem AddsField.key?_eq {f : FieldDescription} {call : Draft.Call} (h : AddsField f call) :
    call.key? = none := by
  cases h <;> rfl

theorem AddsField.constraint?_eq {f : FieldDescription} {call : Draft.Call} (h : AddsField f call) :
    call.constraint? = none := by
  cases h <;> rfl

theorem askedKey_eq (r : RecordDescription) : r.askedKey = r.key := by
  unfold askedKey key
  cases r.key? with
  | some names => rfl
  | none =>
    show r.fields.filterMap _ = (r.fields.filter (·.primaryKey)).map (·.name)
    rw [← List.filterMap_eq_map, ← List.filterMap_eq_filter, List.filterMap_filterMap]
    refine List.filterMap_congr fun f _ => ?_
    cases hmarked : f.primaryKey <;> simp [Option.guard, hmarked]

/-! ## Building what a record spells -/

section Building

variable {r : RecordDescription} {calls : List Draft.Call}

/-- Calls that add the fields of a record add the columns that it is analyzed to. -/
theorem mapM_column_of_addsField {fields : List FieldDescription}
    (h : List.Forall₂ AddsField fields calls) :
    fields.mapM column = .ok (calls.filterMap Draft.Call.column?) := by
  induction h with
  | nil => rfl
  | cons hcall _ ih =>
    obtain ⟨c, hcolumn, hok⟩ := hcall.column?_eq
    rw [List.mapM_cons, hok, ih, List.filterMap_cons_some hcolumn]
    rfl

/-- What no call of a list has is picked from none of them. -/
theorem filterMap_eq_nil_of_addsField {fields : List FieldDescription} {α : Type}
    {g : Draft.Call → Option α} (hg : ∀ f call, AddsField f call → g call = none)
    (h : List.Forall₂ AddsField fields calls) : calls.filterMap g = [] := by
  induction h with
  | nil => rfl
  | cons hcall _ ih => rw [List.filterMap_cons_none (hg _ _ hcall), ih]

/-- **Spelled out in any order, a record leaves the draft that it is analyzed from.** -/
theorem Spells.run_start (h : r.Spells calls) :
    ∃ columns, r.fields.mapM column = .ok columns ∧
      (Draft.start r.name).run calls = ⟨r.name, columns, r.key, r.constraints⟩ := by
  obtain @⟨columns, others, _, keys, hfields, hkeys, hothers, hcalls⟩ := h
  refine ⟨columns.filterMap Draft.Call.column?, mapM_column_of_addsField hfields, ?_⟩
  have hcolumns : calls.filterMap Draft.Call.column? = columns.filterMap Draft.Call.column? := by
    refine hcalls.filterMap_eq_left ?_
    rw [hothers.filterMap_eq_left (by simp [Draft.Call.column?])]
    simp [Draft.Call.column?]
  have hkey : calls.filterMap Draft.Call.key? = keys := by
    rw [hcalls.filterMap_eq_right
        (filterMap_eq_nil_of_addsField (fun _ _ hcall => hcall.key?_eq) hfields),
      hothers.filterMap_eq_left (by simp [Draft.Call.key?])]
    simp [List.filterMap_map, Function.comp_def, Draft.Call.key?]
  have hconstraints : calls.filterMap Draft.Call.constraint? = r.constraints := by
    rw [hcalls.filterMap_eq_right
        (filterMap_eq_nil_of_addsField (fun _ _ hcall => hcall.constraint?_eq) hfields),
      hothers.filterMap_eq_right (by simp [Draft.Call.constraint?])]
    simp [List.filterMap_map, Function.comp_def, Draft.Call.constraint?]
  rw [Draft.run_eq, hcolumns, hkey, hconstraints]
  simp only [Draft.start, List.nil_append, hkeys, askedKey_eq]

theorem Spells.build_eq (h : r.Spells calls) :
    ((Draft.start r.name).run calls).build = r.analyze := by
  obtain ⟨columns, hcolumns, hrun⟩ := h.run_start
  rw [hrun, analyze, hcolumns]
  rfl

/-- The first field of an unknown type is reported, whatever stands behind it. -/
theorem analyze_of_unknown {pre post : List FieldDescription} {f : FieldDescription}
    (hfields : r.fields = pre ++ f :: post) (hpre : ∀ g ∈ pre, HasKnownType g)
    (hf : ¬ HasKnownType f) : r.analyze = .error (.unknownFieldType f.type) := by
  have hfails : r.fields.mapM column = .error (.unknownFieldType f.type) := by
    rw [hfields]
    refine mapM_append_cons_eq_error (fun g hg => ?_) (column_of_unknown hf)
    obtain ⟨type, htype⟩ := FieldType.exists_ofName?_eq (hpre g hg)
    exact ⟨_, column_of_ofName? htype⟩
  rw [analyze, hfails]
  rfl

theorem exists_addsField {fields : List FieldDescription} (h : ∀ f ∈ fields, HasKnownType f) :
    ∃ columns, List.Forall₂ AddsField fields columns := by
  induction fields with
  | nil => exact ⟨[], .nil⟩
  | cons f rest ih =>
    obtain ⟨type, htype⟩ := FieldType.exists_ofName?_eq (h f List.mem_cons_self)
    obtain ⟨columns, hcolumns⟩ := ih fun g hg => h g (List.mem_cons_of_mem f hg)
    exact ⟨_, .cons (.whole htype) hcolumns⟩

/-- With known types, there are calls that spell out the record. -/
theorem exists_spells (h : ∀ f ∈ r.fields, HasKnownType f) : ∃ calls, r.Spells calls := by
  obtain ⟨columns, hcolumns⟩ := exists_addsField h
  have hkeys : [r.askedKey].getLastD [] = r.askedKey := rfl
  exact ⟨_, .mixed hcolumns hkeys (.append _ _) (.append _ _)⟩

end Building

/-- **A record is analyzed to what its calls build, in whatever order they are made.** A field of an
unknown type comes before every other fault; without one there are calls that spell out the record,
and all of them build the same specification or leave the same fault. -/
theorem build_eq_analyze (r : RecordDescription) :
    (∀ pre f post, r.fields = pre ++ f :: post → (∀ g ∈ pre, HasKnownType g) → ¬ HasKnownType f →
        r.analyze = .error (.unknownFieldType f.type)) ∧
      ((∀ f ∈ r.fields, HasKnownType f) →
        (∃ calls, r.Spells calls) ∧
          ∀ calls, r.Spells calls → ((Draft.start r.name).run calls).build = r.analyze) :=
  ⟨fun _ _ _ => analyze_of_unknown, fun h => ⟨exists_spells h, fun _ => Spells.build_eq⟩⟩

/-- A constraint, and a key that is not the last, may come before any column; an unknown type is
found although the table has no name and a field has none. -/
theorem build_eq_analyze_of_mixed_calls :
    let r : RecordDescription := ⟨"members", [⟨"group", "UUID", false, true⟩,
      ⟨"since", "DateTime", true, false⟩], some ["group", "since"], [⟨"key", ["since"], none⟩]⟩
    let calls : List Draft.Call := [.constraint ⟨"key", ["since"], none⟩, .key ["since"],
      .column ⟨"group", .uuid, false⟩, .key ["group", "since"], .nullableField "since" .dateTime]
    let faulty : RecordDescription := ⟨" ", [⟨"id", "UUID", false, true⟩,
      ⟨"data", "Json", false, false⟩, ⟨"", "uuid", false, false⟩], none, []⟩
    (r.Spells calls ∧ ((Draft.start "members").run calls).build = r.analyze) ∧
      faulty.analyze = .error (.unknownFieldType "Json") := by
  intro r calls faulty
  have hkeys : [["since"], ["group", "since"]].getLastD [] = r.askedKey := rfl
  have hspells : r.Spells calls :=
    .mixed (.cons (.whole rfl) (.cons (.nullable rfl rfl) .nil)) hkeys
      (.right (.left (.left .nil))) (.right (.right (.left (.right (.left .nil)))))
  refine ⟨⟨hspells, ((build_eq_analyze r).2 (by decide)).2 calls hspells⟩, ?_⟩
  exact (build_eq_analyze faulty).1 [⟨"id", "UUID", false, true⟩] ⟨"data", "Json", false, false⟩
    [⟨"", "uuid", false, false⟩] rfl (by decide) (by decide)

end RecordDescription

end TableScript
