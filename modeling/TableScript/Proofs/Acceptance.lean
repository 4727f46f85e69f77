import TableScript.Description
import TableScript.Specification.Builder

/-!
# Which drafts become specifications

`Draft.fault?` finds no fault exactly in the valid drafts, so building succeeds for these and no
others, and changes nothing. Every way to a specification ends in building (`Obtained`): naming the
parts, a run of calls, a record description, or analyzing a specification again.

Results:
* `Draft.columnFault?_of_fresh`, `Draft.keyFault?_of_fresh`, `Draft.constraintFault?_of_valid`: no
  part of a valid draft has a fault. With `Draft.valid_of_fault?_eq_none` for the other direction
  this is `Draft.fault?_eq_none_iff`.
* `Draft.build_eq_ok_iff`: building gives back the draft itself, and exactly when it is valid.
* `RecordDescription.exists_build_of_analyze`: a record is analyzed by building a draft of its
  parts, and `RecordDescription.parts_of_analyze`: its name, key and constraints stay as they are.
* `Specification.column?_eq_some_iff`: look-up finds a column exactly when it is the only one of the
  name.
* `build_accepts_valid`: exactly the valid drafts become specifications, unchanged, and whatever is
  obtained is valid.
-/

namespace TableScript

namespace Draft

/-! ## A valid draft has no fault -/

theorem columnFault?_of_fresh : ∀ {columns : List Column} {seen : List String},
    (∀ c ∈ columns, c.name ≠ "" ∧ c.name ∉ seen) → (columns.map (·.name)).Nodup →
      columnFault? seen columns = none
  | [], _, _, _ => rfl
  | c :: rest, seen, hall, hnodup => by
    obtain ⟨hname, hseen⟩ := hall c List.mem_cons_self
    rw [List.map_cons, List.nodup_cons] at hnodup
    rw [columnFault?, if_neg hname, if_neg hseen]
    refine columnFault?_of_fresh (fun x hx => ?_) hnodup.2
    obtain ⟨hxname, hxseen⟩ := hall x (List.mem_cons_of_mem c hx)
    refine ⟨hxname, fun hmem => ?_⟩
    rcases List.mem_cons.mp hmem with heq | hmem
    · exact hnodup.1 (heq ▸ List.mem_map_of_mem hx)
    · exact hxseen hmem

theorem keyFault?_of_fresh {names : List String} : ∀ {key seen : List String},
    (∀ k ∈ key, k ∈ names ∧ k ∉ seen) → key.Nodup → keyFault? names seen key = none
  | [], _, _, _ => rfl
  | k :: rest, seen, hall, hnodup => by
    obtain ⟨hname, hseen⟩ := hall k List.mem_cons_self
    rw [List.nodup_cons] at hnodup
    rw [keyFault?, if_neg (not_not_intro hname), if_neg hseen]
    refine keyFault?_of_fresh (fun x hx => ?_) hnodup.2
    obtain ⟨hxname, hxseen⟩ := hall x (List.mem_cons_of_mem k hx)
    refine ⟨hxname, fun hmem => ?_⟩
    rcases List.mem_cons.mp hmem with rfl | hmem
    · exact hnodup.1 hx
    · exact hxseen hmem

theorem constraintFault?_of_valid {names : List String} {c : Constraint}
    (h : ValidConstraint names c) : constraintFault? names c = none := by
  obtain ⟨hkind, hfields, hmem⟩ := h
  have hnone : c.fields.find? (fun f => decide (f ∉ names)) = none :=
    List.find?_eq_none.mpr fun f hf => by simpa using hmem f hf
  rw [constraintFault?, hkind, if_neg Bool.false_ne_true, if_neg hfields, hnone]
  rfl

theorem fault?_of_valid {d : Draft} (h : d.Valid) : d.fault? = none := by
  have hcolumns : columnFault? [] d.columns = none :=
    columnFault?_of_fresh (fun c hc => ⟨h.column_named c hc, List.not_mem_nil⟩) h.columns_nodup
  have hkey : keyFault? d.columnNames [] d.key = none :=
    keyFault?_of_fresh (fun k hk => ⟨h.key_mapped k hk, List.not_mem_nil⟩) h.key_nodup
  have hconstraints : d.constraints.findSome? (constraintFault? d.columnNames) = none :=
    List.findSome?_eq_none_iff.mpr fun c hc => constraintFault?_of_valid (h.constraint_valid c hc)
  rw [fault?, h.name_visible, if_neg Bool.false_ne_true, if_neg h.columns_ne_nil, hcolumns,
    if_neg h.key_ne_nil, hkey, hconstraints]
  rfl

/-- **A draft is valid exactly when no fault is found in it.** -/
theorem fault?_eq_none_iff {d : Draft} : d.fault? = none ↔ d.Valid :=
  ⟨valid_of_fault?_eq_none, fault?_of_valid⟩

/-! ## Building -/

theorem ofDraft_eq_ok_iff {d : Draft} {s : Specification} :
    Specification.ofDraft d = .ok s ↔ d.Valid ∧ s.toDraft = d := by
  unfold Specification.ofDraft
  split
  · next h =>
    constructor
    · intro hok
      obtain rfl := Except.ok.inj hok
      exact ⟨fault?_eq_none_iff.mp h, rfl⟩
    · rintro ⟨-, rfl⟩
      rfl
  · next fault h =>
    constructor
    · intro hok
      cases hok
    · rintro ⟨hvalid, -⟩
      rw [fault?_of_valid hvalid] at h
      cases h

/-- **Building gives back the draft itself, and exactly when it is valid.** -/
theorem build_eq_ok_iff {d : Draft} {s : Specification} :
    d.build = .ok s ↔ d.Valid ∧ s.toDraft = d := by
  rw [← ofDraft_eq_ok_iff, build]
  cases Specification.ofDraft d with
  | error fault => exact ⟨nofun, nofun⟩
  | ok t => exact ⟨fun h => congrArg _ (Except.ok.inj h), fun h => congrArg _ (Except.ok.inj h)⟩

end Draft

/-! ## Every way to a specification -/

/-- The specifications that come from the parts of a table, from a run of calls, from a record
description, or from a specification that is analyzed again. -/
inductive Obtained : Specification → Prop where
  | parts {d : Draft} {s : Specification} : d.build = .ok s → Obtained s
  | calls {name : String} {calls : List Draft.Call} {s : Specification} :
      ((Draft.start name).run calls).build = .ok s → Obtained s
  | record {r : RecordDescription} {s : Specification} : r.analyze = .ok s → Obtained s
  | again {s t : Specification} : Obtained s →
      (TableSource.specification s).analyze = .ok t → Obtained t

/-- A record's specification is built from a draft of the record's own parts. -/
theorem RecordDescription.exists_build_of_analyze {r : RecordDescription} {s : Specification}
    (h : r.analyze = .ok s) :
    ∃ columns, r.fields.mapM column = .ok columns ∧
      Draft.build ⟨r.name, columns, r.key, r.constraints⟩ = .ok s := by
  unfold analyze at h
  cases hcolumns : r.fields.mapM column with
  | error e =>
    rw [hcolumns] at h
    cases h
  | ok columns =>
    rw [hcolumns] at h
    exact ⟨columns, rfl, h⟩

/-- Analyzing a record keeps its name, its key and its constraints. -/
theorem RecordDescription.parts_of_analyze {r : RecordDescription} {s : Specification}
    (h : r.analyze = .ok s) :
    s.name = r.name ∧ s.key = r.key ∧ s.constraints = r.constraints := by
  obtain ⟨columns, -, hbuild⟩ := exists_build_of_analyze h
  obtain ⟨-, hdraft⟩ := Draft.build_eq_ok_iff.mp hbuild
  rw [hdraft]
  exact ⟨rfl, rfl, rfl⟩

theorem Obtained.exists_build {s : Specification} (h : Obtained s) :
    ∃ d : Draft, d.build = .ok s := by
  induction h with
  | parts h => exact ⟨_, h⟩
  | calls h => exact ⟨_, h⟩
  | record h =>
    obtain ⟨columns, -, hbuild⟩ := RecordDescription.exists_build_of_analyze h
    exact ⟨_, hbuild⟩
  | again _ hagain ih =>
    obtain rfl := Except.ok.inj hagain
    exact ih

theorem Obtained.valid {s : Specification} (h : Obtained s) : s.toDraft.Valid := by
  obtain ⟨d, hbuild⟩ := h.exists_build
  obtain ⟨hvalid, rfl⟩ := Draft.build_eq_ok_iff.mp hbuild
  exact hvalid

/-! ## Looking up a column -/

/-- Where no name repeats, look-up finds whatever bears the name. -/
theorem filter_name_eq_toList_find? (name : String) : ∀ {columns : List Column},
    (columns.map (·.name)).Nodup →
      columns.filter (fun c => c.name == name) =
        (columns.find? fun c => c.name == name).toList
  | [], _ => rfl
  | c :: rest, hnodup => by
    rw [List.map_cons, List.nodup_cons] at hnodup
    by_cases hc : c.name = name
    · have hrest : rest.filter (fun c => c.name == name) = [] := by
        refine List.filter_eq_nil_iff.mpr fun x hx hname => hnodup.1 ?_
        exact List.mem_map.mpr ⟨x, hx, (eq_of_beq hname).trans hc.symm⟩
      simp only [List.filter_cons, List.find?_cons, beq_iff_eq.mpr hc, if_true, hrest]
      rfl
    · have hne : (c.name == name) = false := beq_eq_false_iff_ne.mpr hc
      simp only [List.filter_cons, List.find?_cons, hne, Bool.false_eq_true, if_false]
      exact filter_name_eq_toList_find? name hnodup.2

theorem Specification.column?_eq_some_iff {s : Specification} (hvalid : s.toDraft.Valid)
    (name : String) (c : Column) :
    s.column? name = some c ↔ s.columns.filter (fun x => x.name == name) = [c] := by
  rw [filter_name_eq_toList_find? name hvalid.columns_nodup, column?]
  cases s.columns.find? fun c => c.name == name <;> simp

theorem Specification.exists_column?_of_mem {s : Specification} {name : String}
    (h : name ∈ s.columnNames) : ∃ c, s.column? name = some c := by
  obtain ⟨c, hc, hname⟩ := List.mem_map.mp h
  exact Option.isSome_iff_exists.mp (List.find?_isSome.mpr ⟨c, hc, beq_iff_eq.mpr hname⟩)

/-- **Exactly the valid drafts become specifications, unchanged.** However a specification is
obtained, it is valid, look-up finds every column that its key or a constraint names, and it finds
a column exactly when this is the only one of the name. -/
theorem build_accepts_valid :
    (∀ d : Draft, (∃ s, d.build = .ok s) ↔ d.Valid) ∧
      (∀ (d : Draft) (s : Specification), d.build = .ok s → s.toDraft = d) ∧
      ∀ s, Obtained s →
        s.toDraft.Valid ∧
          (∀ k ∈ s.key, ∃ c, s.column? k = some c) ∧
          (∀ k ∈ s.constraints, ∀ f ∈ k.fields, ∃ c, s.column? f = some c) ∧
          ∀ name c, s.column? name = some c ↔ s.columns.filter (fun x => x.name == name) = [c] := by
  refine ⟨fun d => ⟨?_, fun hvalid => ⟨⟨d, hvalid⟩, ?_⟩⟩, fun d s h => ?_, fun s h => ?_⟩
  · rintro ⟨s, h⟩
    exact (Draft.build_eq_ok_iff.mp h).1
  · exact Draft.build_eq_ok_iff.mpr ⟨hvalid, rfl⟩
  · exact (Draft.build_eq_ok_iff.mp h).2
  · have hvalid := h.valid
    refine ⟨hvalid, fun k hk => ?_, fun k hk f hf => ?_, s.column?_eq_some_iff hvalid⟩
    · exact s.exists_column?_of_mem (hvalid.key_mapped k hk)
    · exact s.exists_column?_of_mem ((hvalid.constraint_valid k hk).2.2 f hf)

end TableScript
