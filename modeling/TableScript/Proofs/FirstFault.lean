import Mathlib.Data.List.Induction
import TableScript.Proofs.Acceptance
import TableScript.Proofs.Traversal

/-!
# The first fault of a draft

`Draft.FirstFault` says without a scan which fault of a draft comes first: the name comes before the
columns, these before the key, and the key before the constraints, and of several items in one list
the first that is at fault with respect to the items in front of it (`FirstIn`).

* `Draft.ColumnFault`, `Draft.KeyFault` and `Draft.ConstraintFault` say what is wrong with one item,
  by the items in front of it.
* `Draft.Suffers` says that a fault is there, wherever in the draft.
* `Draft.Fault.Told` has the text for each of the ten faults.

Results:
* `scan_iff`: a scan that goes through a list once, with what it has seen, stops at the first fault.
* `Draft.fault?_eq_some_iff`: the search that building makes finds the first fault.
* `Draft.FirstFault.suffers`: the first fault is there indeed.
* `Draft.Fault.told_iff`: the message of a fault is the one text that tells it.
* `Draft.refused_by_first_fault`: building fails exactly for the drafts that are not valid, and then
  with the first fault, in an error that names the table and tells the fault.
-/

namespace TableScript

namespace Draft

/-! ## The first item at fault -/

section Scan

variable {α : Type} {At : List α → α → Fault → Prop} {xs : List α} {x : α} {f : Fault}

/-- No item is at fault with respect to the items in front of it. -/
def Faultless (At : List α → α → Fault → Prop) (xs : List α) : Prop :=
  ∀ pre x post f, xs = pre ++ x :: post → ¬ At pre x f

/-- The first item at fault has this fault. -/
def FirstIn (At : List α → α → Fault → Prop) (xs : List α) (f : Fault) : Prop :=
  ∃ pre x post, xs = pre ++ x :: post ∧ Faultless At pre ∧ At pre x f

theorem faultless_nil : Faultless At [] := fun _ _ _ _ h _ => List.append_ne_nil_of_right_ne_nil _
  (List.cons_ne_nil _ _) h.symm

/-- The last item of a list is behind all the others. -/
theorem append_cons_eq_concat {pre post : List α} {y : α} (h : xs ++ [x] = pre ++ y :: post) :
    (xs = pre ∧ x = y) ∨ ∃ rest, xs = pre ++ y :: rest := by
  rcases List.eq_nil_or_concat post with rfl | ⟨rest, z, rfl⟩
  · obtain ⟨hxs, hx⟩ := List.append_inj' h rfl
    exact .inl ⟨hxs, List.head_eq_of_cons_eq hx⟩
  · rw [List.concat_eq_append, ← List.cons_append, ← List.append_assoc] at h
    exact .inr ⟨rest, (List.append_inj' h rfl).1⟩

theorem faultless_concat_iff :
    Faultless At (xs ++ [x]) ↔ Faultless At xs ∧ ∀ f, ¬ At xs x f := by
  constructor
  · intro h
    refine ⟨fun pre y post f hxs => ?_, fun f => h xs x [] f rfl⟩
    exact h pre y (post ++ [x]) f (by rw [hxs, List.append_assoc, List.cons_append])
  · rintro ⟨hxs, hx⟩ pre y post f heq
    rcases append_cons_eq_concat heq with ⟨rfl, rfl⟩ | ⟨rest, hrest⟩
    · exact hx f
    · exact hxs pre y rest f hrest

/-- What is added at the end does not come before the first fault. -/
theorem FirstIn.append (h : FirstIn At xs f) (more : List α) : FirstIn At (xs ++ more) f := by
  obtain ⟨pre, x, post, rfl, hpre, hx⟩ := h
  exact ⟨pre, x, post ++ more, by rw [List.append_assoc, List.cons_append], hpre, hx⟩

theorem firstIn_concat_iff :
    FirstIn At (xs ++ [x]) f ↔ FirstIn At xs f ∨ Faultless At xs ∧ At xs x f := by
  constructor
  · rintro ⟨pre, y, post, heq, hpre, hy⟩
    rcases append_cons_eq_concat heq with ⟨rfl, rfl⟩ | ⟨rest, hrest⟩
    · exact .inr ⟨hpre, hy⟩
    · exact .inl ⟨pre, y, rest, hrest, hpre, hy⟩
  · rintro (h | ⟨hxs, hx⟩)
    · exact h.append [x]
    · exact ⟨xs, x, [], rfl, hxs, hx⟩

/-- **A scan that looks at every item with those in front of it stops at the first fault**, and ends
without one exactly if there is none. -/
theorem scan_iff {scan : List α → Option Fault} (at? : List α → α → Option Fault)
    (hnil : scan [] = none) (hconcat : ∀ xs x, scan (xs ++ [x]) = (scan xs).or (at? xs x))
    (hat : ∀ xs x f, at? xs x = some f ↔ At xs x f) (xs : List α) :
    (scan xs = none ↔ Faultless At xs) ∧ ∀ f, scan xs = some f ↔ FirstIn At xs f := by
  induction xs using List.reverseRecOn with
  | nil =>
    rw [hnil]
    refine ⟨iff_of_true rfl faultless_nil, fun f => iff_of_false nofun ?_⟩
    rintro ⟨pre, x, post, h, -, hx⟩
    exact faultless_nil pre x post f h hx
  | append_singleton xs x ih =>
    obtain ⟨hnone, hsome⟩ := ih
    have hfree : at? xs x = none ↔ ∀ f, ¬ At xs x f := by
      simp only [Option.eq_none_iff_forall_ne_some, ne_eq, hat]
    constructor
    · rw [hconcat, Option.or_eq_none_iff, faultless_concat_iff, hnone, hfree]
    · intro f
      rw [hconcat, Option.or_eq_some_iff, firstIn_concat_iff, hsome, hnone, hat]

end Scan

/-! ## Faults of the items -/

/-- What is wrong with a column behind these. -/
inductive ColumnFault (before : List Column) (c : Column) : Fault → Prop where
  | unnamed : c.name = "" → ColumnFault before c .emptyColumnName
  | repeated : c.name ≠ "" → c.name ∈ before.map (·.name) →
      ColumnFault before c (.repeatedColumn c.name)

/-- What is wrong with a name in the key behind these, where the columns have the given names. -/
inductive KeyFault (names before : List String) (k : String) : Fault → Prop where
  | unknown : k ∉ names → KeyFault names before k (.unknownKeyColumn k)
  | repeated : k ∈ names → k ∈ before → KeyFault names before k (.repeatedKeyColumn k)

/-- What is wrong with a constraint, where the columns have the given names. Of several names that
are no columns, the first counts. -/
inductive ConstraintFault (names : List String) (c : Constraint) : Fault → Prop where
  | blankKind : Text.isBlank c.kind = true → ConstraintFault names c .blankConstraintKind
  | noColumns : Text.isBlank c.kind = false → c.fields = [] →
      ConstraintFault names c (.emptyConstraint c.kind)
  | unknown {pre post : List String} {f : String} : Text.isBlank c.kind = false →
      c.fields = pre ++ f :: post → (∀ g ∈ pre, g ∈ names) → f ∉ names →
      ConstraintFault names c (.unknownConstraintColumn c.kind f)

variable {names : List String} {f : Fault}

theorem columnFault?_append (pre post : List Column) (seen : List String) :
    columnFault? seen (pre ++ post) =
      (columnFault? seen pre).or (columnFault? ((pre.map (·.name)).reverse ++ seen) post) := by
  induction pre generalizing seen with
  | nil => rfl
  | cons c pre ih =>
    rw [List.cons_append, columnFault?, columnFault?]
    split
    · rfl
    · split
      · rfl
      · rw [ih, List.map_cons, List.reverse_cons, List.append_assoc, List.singleton_append]

theorem keyFault?_append (pre post seen : List String) :
    keyFault? names seen (pre ++ post) =
      (keyFault? names seen pre).or (keyFault? names (pre.reverse ++ seen) post) := by
  induction pre generalizing seen with
  | nil => rfl
  | cons k pre ih =>
    rw [List.cons_append, keyFault?, keyFault?]
    split
    · rfl
    · split
      · rfl
      · rw [ih, List.reverse_cons, List.append_assoc, List.singleton_append]

theorem columnFault?_singleton_iff (before : List Column) (c : Column) (f : Fault) :
    columnFault? (before.map (·.name)).reverse [c] = some f ↔ ColumnFault before c f := by
  simp only [columnFault?, List.mem_reverse]
  constructor
  · intro h
    split at h
    · next hname => exact Option.some.inj h ▸ .unnamed hname
    · next hname =>
      split at h
      · next hseen => exact Option.some.inj h ▸ .repeated hname hseen
      · cases h
  · rintro (hname | ⟨hname, hseen⟩)
    · rw [if_pos hname]
    · rw [if_neg hname, if_pos hseen]

theorem keyFault?_singleton_iff (before : List String) (k : String) (f : Fault) :
    keyFault? names before.reverse [k] = some f ↔ KeyFault names before k f := by
  simp only [keyFault?, List.mem_reverse]
  constructor
  · intro h
    split at h
    · next hunknown => exact Option.some.inj h ▸ .unknown hunknown
    · next hknown =>
      split at h
      · next hseen => exact Option.some.inj h ▸ .repeated (not_not.mp hknown) hseen
      · cases h
  · rintro (hunknown | ⟨hknown, hseen⟩)
    · rw [if_pos hunknown]
    · rw [if_neg (not_not_intro hknown), if_pos hseen]

theorem constraintFault?_eq_some_iff {c : Constraint} :
    constraintFault? names c = some f ↔ ConstraintFault names c f := by
  constructor
  · intro h
    unfold constraintFault? at h
    split at h
    · next hkind => exact Option.some.inj h ▸ .blankKind hkind
    · next hkind =>
      rw [Bool.not_eq_true] at hkind
      split at h
      · next hfields => exact Option.some.inj h ▸ .noColumns hkind hfields
      · obtain ⟨name, hname, rfl⟩ := Option.map_eq_some_iff.mp h
        obtain ⟨hunknown, pre, post, hfields, hpre⟩ := List.find?_eq_some_iff_append.mp hname
        exact .unknown hkind hfields (fun g hg => by simpa using hpre g hg)
          (of_decide_eq_true hunknown)
  · rintro (hkind | ⟨hkind, hfields⟩ | @⟨pre, post, name, hkind, hfields, hpre, hunknown⟩)
    · rw [constraintFault?, if_pos hkind]
    · rw [constraintFault?, hkind, if_neg Bool.false_ne_true, if_pos hfields]
    · have hne : c.fields ≠ [] := by simp [hfields]
      have hfirst : c.fields.find? (fun g => decide (g ∉ names)) = some name :=
        List.find?_eq_some_iff_append.mpr
          ⟨decide_eq_true hunknown, pre, post, hfields, fun g hg => by simpa using hpre g hg⟩
      rw [constraintFault?, hkind, if_neg Bool.false_ne_true, if_neg hne, hfirst]
      rfl

/-! ## The first fault of the draft -/

theorem columnFault?_iff (columns : List Column) :
    (columnFault? [] columns = none ↔ Faultless ColumnFault columns) ∧
      ∀ f, columnFault? [] columns = some f ↔ FirstIn ColumnFault columns f :=
  scan_iff _ rfl (fun xs x => by rw [columnFault?_append, List.append_nil])
    columnFault?_singleton_iff columns

theorem keyFault?_iff (names key : List String) :
    (keyFault? names [] key = none ↔ Faultless (KeyFault names) key) ∧
      ∀ f, keyFault? names [] key = some f ↔ FirstIn (KeyFault names) key f :=
  scan_iff _ rfl (fun xs x => by rw [keyFault?_append, List.append_nil])
    keyFault?_singleton_iff key

theorem findSome?_constraintFault?_iff (names : List String) (constraints : List Constraint) :
    constraints.findSome? (constraintFault? names) = some f ↔
      FirstIn (fun _ => ConstraintFault names) constraints f :=
  (scan_iff (fun _ => constraintFault? names) rfl
    (fun xs x => by rw [List.findSome?_append, List.findSome?_singleton])
    (fun _ _ _ => constraintFault?_eq_some_iff) constraints).2 f

/-- The draft has a name, and columns without a fault. -/
structure SoundColumns (d : Draft) : Prop where
  name_visible : Text.isBlank d.name = false
  columns_ne_nil : d.columns ≠ []
  columns_faultless : Faultless ColumnFault d.columns

/-- So it is with the key as well. -/
structure SoundKey (d : Draft) : Prop extends SoundColumns d where
  key_ne_nil : d.key ≠ []
  key_faultless : Faultless (KeyFault d.columnNames) d.key

/-- The fault is the first of the draft: everything in front of it is without a fault. -/
inductive FirstFault (d : Draft) : Fault → Prop where
  | blankTableName : Text.isBlank d.name = true → FirstFault d .blankTableName
  | noColumns : Text.isBlank d.name = false → d.columns = [] → FirstFault d .noColumns
  | column {f : Fault} : Text.isBlank d.name = false → FirstIn ColumnFault d.columns f →
      FirstFault d f
  | emptyKey : d.SoundColumns → d.key = [] → FirstFault d .emptyKey
  | key {f : Fault} : d.SoundColumns → FirstIn (KeyFault d.columnNames) d.key f → FirstFault d f
  | constraint {f : Fault} : d.SoundKey →
      FirstIn (fun _ => ConstraintFault d.columnNames) d.constraints f → FirstFault d f

theorem FirstIn.ne_nil {α : Type} {At : List α → α → Fault → Prop} {xs : List α}
    (h : FirstIn At xs f) : xs ≠ [] := by
  obtain ⟨pre, x, post, rfl, -⟩ := h
  exact List.append_ne_nil_of_right_ne_nil pre (List.cons_ne_nil x post)

/-- **The search for a fault finds the first.** -/
theorem fault?_eq_some_iff {d : Draft} : d.fault? = some f ↔ d.FirstFault f := by
  obtain ⟨hcolumns, hcolumn⟩ := columnFault?_iff d.columns
  obtain ⟨hkeys, hkey⟩ := keyFault?_iff d.columnNames d.key
  have hconstraint := findSome?_constraintFault?_iff (f := f) d.columnNames d.constraints
  unfold fault?
  constructor
  · intro h
    split at h
    · next hname => exact Option.some.inj h ▸ .blankTableName hname
    · next hname =>
      rw [Bool.not_eq_true] at hname
      split at h
      · next hnil => exact Option.some.inj h ▸ .noColumns hname hnil
      · next hne =>
        rcases Option.or_eq_some_iff.mp h with h | ⟨hnone, h⟩
        · exact .column hname ((hcolumn f).mp h)
        · have hsound : d.SoundColumns := ⟨hname, hne, hcolumns.mp hnone⟩
          split at h
          · next hnil => exact Option.some.inj h ▸ .emptyKey hsound hnil
          · next hne =>
            rcases Option.or_eq_some_iff.mp h with h | ⟨hnone, h⟩
            · exact .key hsound ((hkey f).mp h)
            · exact .constraint ⟨hsound, hne, hkeys.mp hnone⟩ (hconstraint.mp h)
  · rintro (hname | ⟨hname, hnil⟩ | ⟨hname, hfirst⟩ | ⟨hsound, hnil⟩ | ⟨hsound, hfirst⟩ |
      ⟨hsound, hfirst⟩)
    · rw [if_pos hname]
    · rw [hname, if_neg Bool.false_ne_true, if_pos hnil]
    · rw [hname, if_neg Bool.false_ne_true, if_neg hfirst.ne_nil, (hcolumn f).mpr hfirst,
        Option.some_or]
    · rw [hsound.name_visible, if_neg Bool.false_ne_true, if_neg hsound.columns_ne_nil,
        hcolumns.mpr hsound.columns_faultless, Option.none_or, if_pos hnil]
    · rw [hsound.name_visible, if_neg Bool.false_ne_true, if_neg hsound.columns_ne_nil,
        hcolumns.mpr hsound.columns_faultless, Option.none_or, if_neg hfirst.ne_nil,
        (hkey f).mpr hfirst, Option.some_or]
    · rw [hsound.name_visible, if_neg Bool.false_ne_true, if_neg hsound.columns_ne_nil,
        hcolumns.mpr hsound.columns_faultless, Option.none_or, if_neg hsound.key_ne_nil,
        hkeys.mpr hsound.key_faultless, Option.none_or, hconstraint.mpr hfirst]

/-! ## What the message says -/

/-- The fault is there, wherever in the draft. -/
def Suffers (d : Draft) : Fault → Prop
  | .blankTableName => Text.isBlank d.name = true
  | .noColumns => d.columns = []
  | .emptyColumnName => "" ∈ d.columnNames
  | .repeatedColumn name => 1 < d.columnNames.count name
  | .emptyKey => d.key = []
  | .unknownKeyColumn name => name ∈ d.key ∧ name ∉ d.columnNames
  | .repeatedKeyColumn name => 1 < d.key.count name
  | .blankConstraintKind => ∃ c ∈ d.constraints, Text.isBlank c.kind = true
  | .emptyConstraint kind => ∃ c ∈ d.constraints, c.kind = kind ∧ c.fields = []
  | .unknownConstraintColumn kind name =>
    ∃ c ∈ d.constraints, c.kind = kind ∧ name ∈ c.fields ∧ name ∉ d.columnNames

/-- The texts that tell the faults: a name that is at fault stands in quotes, and the kind of a
constraint in front. -/
inductive Fault.Told : Fault → String → Prop where
  | blankTableName : Told .blankTableName "table name must not be empty"
  | noColumns : Told .noColumns "at least one field mapping is required"
  | emptyColumnName : Told .emptyColumnName "field names must not be empty"
  | repeatedColumn (name : String) :
      Told (.repeatedColumn name) ("duplicate field '" ++ name ++ "'")
  | emptyKey : Told .emptyKey "id_fields must not be empty"
  | unknownKeyColumn (name : String) :
      Told (.unknownKeyColumn name) ("id field '" ++ name ++ "' is not a mapped field")
  | repeatedKeyColumn (name : String) :
      Told (.repeatedKeyColumn name) ("id field '" ++ name ++ "' listed twice")
  | blankConstraintKind : Told .blankConstraintKind "constraint type must not be empty"
  | emptyConstraint (kind : String) :
      Told (.emptyConstraint kind) (kind ++ " constraint must name at least one field")
  | unknownConstraintColumn (kind name : String) :
      Told (.unknownConstraintColumn kind name)
        (kind ++ " constraint references unknown field '" ++ name ++ "'")

/-- **The message of a fault is the one text that tells it.** -/
theorem Fault.told_iff {text : String} : f.Told text ↔ f.message = text := by
  constructor
  · intro h
    cases h <;> rfl
  · rintro rfl
    cases f <;> constructor

variable {d : Draft}

/-- Something that was there before is there more than once. -/
theorem one_lt_count_of_mem {x : String} {pre post : List String} (h : x ∈ pre) :
    1 < (pre ++ x :: post).count x := by
  have hpre : 0 < pre.count x := List.count_pos_iff.mpr h
  rw [List.count_append, List.count_cons_self]
  omega

theorem FirstFault.suffers (h : d.FirstFault f) : d.Suffers f := by
  cases h with
  | blankTableName hname => exact hname
  | noColumns _ hnil => exact hnil
  | emptyKey _ hnil => exact hnil
  | column _ hfirst =>
    obtain ⟨pre, c, post, hsplit, -, hc⟩ := hfirst
    have hnames : d.columnNames = pre.map (·.name) ++ c.name :: post.map (·.name) := by
      rw [columnNames, hsplit, List.map_append, List.map_cons]
    cases hc with
    | unnamed hname =>
      rw [Suffers, hnames, hname]
      exact List.mem_append_right _ List.mem_cons_self
    | repeated _ hseen =>
      rw [Suffers, hnames]
      exact one_lt_count_of_mem hseen
  | key _ hfirst =>
    obtain ⟨pre, k, post, hsplit, -, hk⟩ := hfirst
    cases hk with
    | unknown hunknown =>
      exact ⟨hsplit ▸ List.mem_append_right pre List.mem_cons_self, hunknown⟩
    | repeated _ hseen =>
      rw [Suffers, hsplit]
      exact one_lt_count_of_mem hseen
  | constraint _ hfirst =>
    obtain ⟨pre, c, post, hsplit, -, hc⟩ := hfirst
    have hmem : c ∈ d.constraints := hsplit ▸ List.mem_append_right pre List.mem_cons_self
    cases hc with
    | blankKind hkind => exact ⟨c, hmem, hkind⟩
    | noColumns _ hnil => exact ⟨c, hmem, rfl, hnil⟩
    | unknown _ hfields _ hunknown =>
      exact ⟨c, hmem, rfl, hfields ▸ List.mem_append_right _ List.mem_cons_self, hunknown⟩

/-! ## Refusals -/

/-- A draft that is not built is refused in its own name, for its first fault. -/
theorem build_eq_error_iff {e : Error} :
    d.build = .error e ↔ ∃ f, d.FirstFault f ∧ e = .invalidSpecification d.name f := by
  simp only [build, mapError_eq_error_iff, ← fault?_eq_some_iff]
  unfold Specification.ofDraft
  split
  · next hnone => simp [hnone]
  · next fault hfault => simp [hfault, eq_comm]

/-- **A draft is refused for its first fault, and for that alone.** Building fails exactly for the
drafts that are not valid, and then with the fault that comes first. That fault is there indeed, and
the error names the table and tells the fault. -/
theorem refused_by_first_fault (d : Draft) :
    ((∃ e, d.build = .error e) ↔ ¬ d.Valid) ∧
      (∀ e, d.build = .error e ↔ ∃ f, d.FirstFault f ∧ e = .invalidSpecification d.name f) ∧
      ∀ f, d.FirstFault f → d.Suffers f ∧
        ∃ text, f.Told text ∧ f.message = text ∧
          (Error.invalidSpecification d.name f).message =
            "Invalid specification for table '" ++ d.name ++ "': " ++ text := by
  refine ⟨?_, fun e => build_eq_error_iff, fun f h =>
    ⟨h.suffers, f.message, Fault.told_iff.mpr rfl, rfl, rfl⟩⟩
  constructor
  · rintro ⟨e, he⟩ hvalid
    obtain ⟨f, hf, -⟩ := build_eq_error_iff.mp he
    rw [← fault?_eq_some_iff, fault?_of_valid hvalid] at hf
    cases hf
  · intro hinvalid
    cases hbuild : d.build with
    | error e => exact ⟨e, rfl⟩
    | ok s => exact absurd (build_eq_ok_iff.mp hbuild).1 hinvalid

/-- Of a repeated column, an unnamed column, a missing key and a blank constraint, the repeated
column comes first; of two constraints over unknown columns the first does, with the first of its
unknown columns. -/
theorem refused_by_repeated_column :
    let d : Draft := ⟨"t", [⟨"a", .uuid, false⟩, ⟨"b", .text, true⟩, ⟨"a", .text, true⟩,
      ⟨"", .text, false⟩], [], [⟨" ", [], none⟩]⟩
    let d' : Draft := ⟨"t", [⟨"a", .uuid, false⟩], ["a"],
      [⟨"unique", ["a", "b", "c"], none⟩, ⟨"index", ["d"], none⟩]⟩
    (d.FirstFault (.repeatedColumn "a") ∧ 1 < d.columnNames.count "a" ∧
        ∃ e, d.build = .error e ∧
          e.message = "Invalid specification for table 't': duplicate field 'a'") ∧
      d'.FirstFault (.unknownConstraintColumn "unique" "b") ∧ "b" ∉ d'.columnNames ∧
        ∃ e, d'.build = .error e ∧ e.message =
          "Invalid specification for table 't': unique constraint references unknown field 'b'" := by
  intro d d'
  have hbefore : Faultless ColumnFault [⟨"a", .uuid, false⟩, ⟨"b", .text, true⟩] :=
    (columnFault?_iff _).1.mp rfl
  have hfirst : d.FirstFault (.repeatedColumn "a") :=
    .column (by decide) ⟨_, ⟨"a", .text, true⟩, _, rfl, hbefore, .repeated (by decide) (by decide)⟩
  have hfirst' : d'.FirstFault (.unknownConstraintColumn "unique" "b") :=
    fault?_eq_some_iff.mp (by decide)
  obtain ⟨-, hbuild, hfault⟩ := refused_by_first_fault d
  obtain ⟨-, hbuild', hfault'⟩ := refused_by_first_fault d'
  obtain ⟨hsuffers, text, htold, -, hmessage⟩ := hfault _ hfirst
  obtain ⟨⟨c, hc, -, -, hunknown⟩, text', htold', -, hmessage'⟩ := hfault' _ hfirst'
  cases htold
  cases htold'
  exact ⟨⟨hfirst, hsuffers, _, (hbuild _).mpr ⟨_, hfirst, rfl⟩, hmessage⟩,
    hfirst', hunknown, _, (hbuild' _).mpr ⟨_, hfirst', rfl⟩, hmessage'⟩

end Draft

end TableScript
