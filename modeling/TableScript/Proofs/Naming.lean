import TableScript.Proofs.Creation

/-!
# Databases that can be named

The name of a database and the settings of its dialect stand in statements as they are. Naming a
database lets in exactly the `Plain` ones. A plain text holds neither blanks nor any of the
`delimiters`, so it is one word of a statement and ends none.

* `Dialect.creationWords` and `Dialect.dropWords` are the words of the two statements.
* `FirstUnplain` is the first setting that is not plain.

Results:
* `isPlain_iff`: the check of the program is `Plain`.
* `Database.exists_named_iff`: a database is named exactly when its name and its settings are plain.
* `Database.named_eq_error_iff_unplain`: else the first setting that is not plain is refused, or the
  name if there is none.
* `Dialect.splitAtBlanks_createDatabase?`, `Dialect.splitAtBlanks_dropDatabase?`: the statements are
  made of their words, and `Dialect.creationWords_inj`: these tell the dialect and the name.
* `Dialect.delimitersIn_createDatabase?`, `Dialect.delimitersIn_dropDatabase?`: no delimiters stand
  in them but those that PostgreSQL needs.
* `Database.named_exactly`: all of this for any dialect, settings and name.
-/

namespace TableScript

/-! ## Plain names -/

namespace Identifier

/-- At least one character, and every one an ASCII letter, an ASCII digit or the underscore. -/
structure Plain (s : String) : Prop where
  ne_empty : s ≠ ""
  char_plain : ∀ c ∈ s.toList, c.isAlphanum = true ∨ c = '_'

theorem isPlainChar_iff {c : Char} : isPlainChar c = true ↔ c.isAlphanum = true ∨ c = '_' := by
  have hplain : isPlainChar c = (c.isLower || ('A' ≤ c && c ≤ 'Z') || c.isDigit || c == '_') := rfl
  have hupper : c.isUpper = ('A' ≤ c && c ≤ 'Z') := Bool.decide_and ..
  have halphanum : c.isAlphanum = (c.isUpper || c.isLower || c.isDigit) := rfl
  rw [hplain, halphanum, hupper, Bool.or_comm c.isLower, Bool.or_eq_true, beq_iff_eq]

theorem isPlain_iff {s : String} : isPlain s = true ↔ Plain s := by
  unfold isPlain
  rw [Bool.and_eq_true, List.all_eq_true, Bool.not_eq_true', List.isEmpty_eq_false_iff, ne_eq,
    String.toList_eq_nil_iff]
  constructor
  · rintro ⟨hne, hall⟩
    exact ⟨hne, fun c hc => isPlainChar_iff.mp (hall c hc)⟩
  · rintro ⟨hne, hall⟩
    exact ⟨hne, fun c hc => isPlainChar_iff.mpr (hall c hc)⟩

instance (s : String) : Decidable (Plain s) := decidable_of_iff _ isPlain_iff

theorem isPlain_eq_false_iff {s : String} : isPlain s = false ↔ ¬ Plain s := by
  rw [← isPlain_iff, Bool.not_eq_true]

theorem Plain.not_mem {s : String} (h : Plain s) {c : Char} (hc : isPlainChar c = false) :
    c ∉ s.toList := by
  intro hmem
  rw [isPlainChar_iff.mpr (h.char_plain c hmem)] at hc
  cases hc

end Identifier

open Identifier

/-! ## Words and delimiters -/

namespace Text

/-- The parts of a text between its blanks. -/
def splitAtBlanks (s : String) : List String := (s.split ' ').toList.map (·.copy)

/-- Words without blanks come back from the text that joins them. -/
theorem splitAtBlanks_intercalate {words : List String} (hne : words ≠ [])
    (h : ∀ w ∈ words, ' ' ∉ w.toList) : splitAtBlanks (" ".intercalate words) = words := by
  have hsplit := String.toList_split_intercalate h
  rw [if_neg hne] at hsplit
  exact hsplit

/-- What could end a statement, or open or close quotes in it. -/
def delimiters : List Char := [';', '\n', '\'', '"', '\x60']

/-- The delimiters in a text, in order. -/
def delimitersIn (s : String) : List Char := s.toList.filter fun c => delimiters.contains c

@[simp] theorem delimitersIn_append (s t : String) :
    delimitersIn (s ++ t) = delimitersIn s ++ delimitersIn t := by
  rw [delimitersIn, String.toList_append, List.filter_append]
  rfl

theorem delimitersIn_of_plain {s : String} (h : Plain s) : delimitersIn s = [] := by
  refine List.filter_eq_nil_iff.mpr fun c hc hmem => ?_
  have hnone : ∀ d ∈ delimiters, isPlainChar d = false := by simp [delimiters, isPlainChar]
  exact h.not_mem (hnone c (List.contains_iff_mem.mp hmem)) hc

end Text

open Text

/-! ## The statements of a database -/

namespace Dialect

/-- The words of the statement that creates a database. -/
def creationWords (name : String) : Dialect → Option (List String)
  | mysql charset collation =>
    some ["CREATE", "DATABASE", "IF", "NOT", "EXISTS", name, "CHARACTER", "SET", charset,
      "COLLATE", collation]
  | postgres encoding => some ["CREATE", "DATABASE", name, "ENCODING", "'" ++ encoding ++ "'"]
  | sqlite => none

/-- The words of the statement that drops a database. -/
def dropWords (name : String) : Dialect → Option (List String)
  | mysql _ _ => some ["DROP", "DATABASE", "IF", "EXISTS", name]
  | postgres _ => some ["DROP", "DATABASE", "IF", "EXISTS", name]
  | sqlite => none

/-- The delimiters that the statement needs: PostgreSQL puts its encoding between apostrophes. -/
def creationDelimiters : Dialect → List Char
  | postgres _ => ['\'', '\'']
  | _ => []

theorem createDatabase?_eq (d : Dialect) (name : String) :
    d.flavor.createDatabase? name = (d.creationWords name).map " ".intercalate := by
  cases d with
  | mysql charset collation =>
    simp only [flavor, creationWords, Option.map_some, Option.some.injEq, ← String.toList_inj,
      String.toList_append, String.toList_intercalate]
    simp
  | postgres encoding =>
    simp only [flavor, creationWords, Option.map_some, Option.some.injEq, ← String.toList_inj,
      String.toList_append, String.toList_intercalate]
    simp
  | sqlite => rfl

theorem dropDatabase?_eq (d : Dialect) (name : String) :
    d.flavor.dropDatabase? name = (d.dropWords name).map " ".intercalate := by
  have hdrop : dropStatement name = " ".intercalate ["DROP", "DATABASE", "IF", "EXISTS", name] := by
    unfold dropStatement
    rw [← String.toList_inj, String.toList_append, String.toList_intercalate]
    simp
  cases d with
  | mysql charset collation => simp only [flavor, dropWords, Option.map_some, hdrop]
  | postgres encoding => simp only [flavor, dropWords, Option.map_some, hdrop]
  | sqlite => rfl

section PlainValues

variable {d : Dialect} {name charset collation encoding : String}

theorem plain_mysql_iff :
    (∀ s ∈ (mysql charset collation).flavor.settings, Plain s.2) ↔
      Plain charset ∧ Plain collation := by
  simp [flavor]

theorem plain_postgres_iff :
    (∀ s ∈ (postgres encoding).flavor.settings, Plain s.2) ↔ Plain encoding := by
  simp [flavor]

/-- With plain settings and a plain name, no word of the statements holds a blank. -/
theorem blank_not_mem_creationWords (hsettings : ∀ s ∈ d.flavor.settings, Plain s.2)
    (hname : Plain name) {words : List String} (h : d.creationWords name = some words) :
    words ≠ [] ∧ ∀ w ∈ words, ' ' ∉ w.toList := by
  have hblank : ∀ {s : String}, Plain s → ' ' ∉ s.toList := fun hs => hs.not_mem (by decide)
  cases d with
  | mysql charset collation =>
    obtain ⟨hcharset, hcollation⟩ := plain_mysql_iff.mp hsettings
    obtain rfl := Option.some.inj h
    simp [hblank hname, hblank hcharset, hblank hcollation]
  | postgres encoding =>
    have hencoding := plain_postgres_iff.mp hsettings
    obtain rfl := Option.some.inj h
    simp [hblank hname, hblank hencoding]
  | sqlite => cases h

theorem blank_not_mem_dropWords (hname : Plain name) {words : List String}
    (h : d.dropWords name = some words) : words ≠ [] ∧ ∀ w ∈ words, ' ' ∉ w.toList := by
  have hblank : ' ' ∉ name.toList := hname.not_mem (by decide)
  cases d with
  | mysql charset collation =>
    obtain rfl := Option.some.inj h
    simp [hblank]
  | postgres encoding =>
    obtain rfl := Option.some.inj h
    simp [hblank]
  | sqlite => cases h

/-- **The statement that creates a database is made of its words**, each value one of them. -/
theorem splitAtBlanks_createDatabase? (hsettings : ∀ s ∈ d.flavor.settings, Plain s.2)
    (hname : Plain name) :
    (d.flavor.createDatabase? name).map splitAtBlanks = d.creationWords name := by
  rw [createDatabase?_eq]
  cases hwords : d.creationWords name with
  | none => rfl
  | some words =>
    obtain ⟨hne, hblank⟩ := blank_not_mem_creationWords hsettings hname hwords
    exact congrArg some (splitAtBlanks_intercalate hne hblank)

theorem splitAtBlanks_dropDatabase? (hname : Plain name) :
    (d.flavor.dropDatabase? name).map splitAtBlanks = d.dropWords name := by
  rw [dropDatabase?_eq]
  cases hwords : d.dropWords name with
  | none => rfl
  | some words =>
    obtain ⟨hne, hblank⟩ := blank_not_mem_dropWords hname hwords
    exact congrArg some (splitAtBlanks_intercalate hne hblank)

/-- The words tell the dialect, with its settings, and the name. -/
theorem creationWords_inj {d' : Dialect} {name' : String} (hne : d.creationWords name ≠ none)
    (h : d.creationWords name = d'.creationWords name') : d = d' ∧ name = name' := by
  cases d <;> cases d' <;> simp_all [creationWords]

/-- The statement that creates a database holds no delimiters but those that it needs. -/
theorem delimitersIn_createDatabase? (hsettings : ∀ s ∈ d.flavor.settings, Plain s.2)
    (hname : Plain name) {statement : String}
    (h : d.flavor.createDatabase? name = some statement) :
    delimitersIn statement = d.creationDelimiters := by
  have hnone := delimitersIn_of_plain hname
  cases d with
  | mysql charset collation =>
    obtain ⟨hcharset, hcollation⟩ := plain_mysql_iff.mp hsettings
    obtain rfl := Option.some.inj h
    simp only [delimitersIn_append, hnone, delimitersIn_of_plain hcharset,
      delimitersIn_of_plain hcollation]
    rfl
  | postgres encoding =>
    have hencoding := plain_postgres_iff.mp hsettings
    obtain rfl := Option.some.inj h
    simp only [delimitersIn_append, hnone, delimitersIn_of_plain hencoding]
    rfl
  | sqlite => cases h

theorem delimitersIn_dropDatabase? (hname : Plain name) {statement : String}
    (h : d.flavor.dropDatabase? name = some statement) : delimitersIn statement = [] := by
  have hdrop : delimitersIn (dropStatement name) = [] := by
    unfold dropStatement
    rw [delimitersIn_append, delimitersIn_of_plain hname]
    rfl
  cases d with
  | mysql charset collation => exact Option.some.inj h ▸ hdrop
  | postgres encoding => exact Option.some.inj h ▸ hdrop
  | sqlite => cases h

end PlainValues

end Dialect

/-! ## Which databases are let in -/

/-- The first setting that is not plain. -/
def FirstUnplain (settings : List (String × String)) (s : String × String) : Prop :=
  ∃ pre post, settings = pre ++ s :: post ∧ (∀ t ∈ pre, Plain t.2) ∧ ¬ Plain s.2

namespace Flavor

variable {f : Flavor}

theorem unplainSetting?_eq_none_iff :
    f.unplainSetting? = none ↔ ∀ s ∈ f.settings, Plain s.2 := by
  unfold unplainSetting?
  rw [List.find?_eq_none]
  simp only [Bool.not_eq_true', Bool.not_eq_false, isPlain_iff]

theorem unplainSetting?_eq_some_iff {s : String × String} :
    f.unplainSetting? = some s ↔ FirstUnplain f.settings s := by
  unfold unplainSetting? FirstUnplain
  rw [List.find?_eq_some_iff_append]
  simp only [Bool.not_eq_true', Bool.not_not, isPlain_iff, ← Bool.not_eq_true]
  constructor
  · rintro ⟨hs, pre, post, hsplit, hpre⟩
    exact ⟨pre, post, hsplit, hpre, hs⟩
  · rintro ⟨pre, post, hsplit, hpre, hs⟩
    exact ⟨hs, pre, post, hsplit, hpre⟩

theorem checkSettings_eq_ok_iff : f.checkSettings = .ok () ↔ ∀ s ∈ f.settings, Plain s.2 := by
  rw [← unplainSetting?_eq_none_iff]
  unfold checkSettings
  cases f.unplainSetting? <;> simp

/-- The check refuses the first setting that is not plain. -/
theorem checkSettings_of_firstUnplain {s : String × String} (h : FirstUnplain f.settings s) :
    f.checkSettings = .error (.invalidSetting s.1 s.2) := by
  unfold checkSettings
  rw [unplainSetting?_eq_some_iff.mpr h]

end Flavor

namespace Database

variable {d : Dialect} {name : String}

/-- **Exactly the plain names and settings are let in.** -/
theorem exists_named_iff :
    (∃ db, named d name = .ok db) ↔ Plain name ∧ ∀ s ∈ d.flavor.settings, Plain s.2 := by
  constructor
  · rintro ⟨db, h⟩
    obtain ⟨rfl, rfl⟩ := named_eq_ok h
    exact ⟨isPlain_iff.mp db.name_plain, Flavor.unplainSetting?_eq_none_iff.mp db.settings_plain⟩
  · rintro ⟨hname, hsettings⟩
    exact exists_named_of_isPlain (Flavor.checkSettings_eq_ok_iff.mpr hsettings)
      (isPlain_iff.mpr hname)

theorem named_of_firstUnplain {s : String × String} (h : FirstUnplain d.flavor.settings s) :
    named d name = .error (.invalidSetting s.1 s.2) := by
  have hs := Flavor.unplainSetting?_eq_some_iff.mpr h
  unfold named
  split
  · next t ht =>
    obtain rfl := Option.some.inj (hs.symm.trans ht)
    rfl
  · next hnone =>
    rw [hs] at hnone
    cases hnone

/-- **A setting is refused before the name**, and of several settings the first. -/
theorem named_eq_error_iff_unplain {e : Error} :
    named d name = .error e ↔
      (∃ s, FirstUnplain d.flavor.settings s ∧ e = .invalidSetting s.1 s.2) ∨
        ((∀ s ∈ d.flavor.settings, Plain s.2) ∧ ¬ Plain name ∧ e = .invalidDatabaseName name) := by
  constructor
  · intro h
    cases hfirst : d.flavor.unplainSetting? with
    | some s =>
      have hs := Flavor.unplainSetting?_eq_some_iff.mp hfirst
      rw [named_of_firstUnplain hs] at h
      exact .inl ⟨s, hs, (Except.error.inj h).symm⟩
    | none =>
      have hsettings := Flavor.unplainSetting?_eq_none_iff.mp hfirst
      by_cases hname : Plain name
      · obtain ⟨db, hdb⟩ := exists_named_iff.mpr ⟨hname, hsettings⟩
        rw [hdb] at h
        cases h
      · rw [named_of_not_isPlain (Flavor.checkSettings_eq_ok_iff.mpr hsettings)
          (isPlain_eq_false_iff.mpr hname)] at h
        exact .inr ⟨hsettings, hname, (Except.error.inj h).symm⟩
  · rintro (⟨s, hs, rfl⟩ | ⟨hsettings, hname, rfl⟩)
    · exact named_of_firstUnplain hs
    · exact named_of_not_isPlain (Flavor.checkSettings_eq_ok_iff.mpr hsettings)
        (isPlain_eq_false_iff.mpr hname)

theorem splitAtBlanks_of_named {db : Database} (h : named d name = .ok db) :
    (db.flavor.createDatabase? db.name).map splitAtBlanks = d.creationWords name := by
  obtain ⟨hname, hsettings⟩ := exists_named_iff.mp ⟨db, h⟩
  obtain ⟨rfl, rfl⟩ := named_eq_ok h
  exact Dialect.splitAtBlanks_createDatabase? hsettings hname

/-- **Only plain names and settings come into the statements of a database**, and there they stay in
their places. A database is named exactly when its name and every setting of its dialect are plain;
otherwise the first setting that is not plain is refused, or else the name. The statements of a
database that is named are made of the words that they should be made of, with every value one word;
they hold no delimiters but the apostrophes of PostgreSQL; and the statement that creates a database
tells its name and the dialect with its settings. -/
theorem named_exactly (d : Dialect) (name : String) :
    ((∃ db, named d name = .ok db) ↔ Plain name ∧ ∀ s ∈ d.flavor.settings, Plain s.2) ∧
      (∀ e, named d name = .error e ↔
        (∃ s, FirstUnplain d.flavor.settings s ∧ e = .invalidSetting s.1 s.2) ∨
          ((∀ s ∈ d.flavor.settings, Plain s.2) ∧ ¬ Plain name ∧
            e = .invalidDatabaseName name)) ∧
      ∀ db, named d name = .ok db →
        let create? := db.flavor.createDatabase? db.name
        let drop? := db.flavor.dropDatabase? db.name
        create?.map splitAtBlanks = d.creationWords name ∧
          drop?.map splitAtBlanks = d.dropWords name ∧
          (∀ statement, create? = some statement →
            delimitersIn statement = d.creationDelimiters) ∧
          (∀ statement, drop? = some statement → delimitersIn statement = []) ∧
          ∀ d' name' db', named d' name' = .ok db' → create? ≠ none →
            create? = db'.flavor.createDatabase? db'.name → d = d' ∧ name = name' := by
  refine ⟨exists_named_iff, fun e => named_eq_error_iff_unplain, fun db hdb => ?_⟩
  obtain ⟨hname, hsettings⟩ := exists_named_iff.mp ⟨db, hdb⟩
  have hcreate := splitAtBlanks_of_named hdb
  obtain ⟨rfl, rfl⟩ := named_eq_ok hdb
  refine ⟨hcreate, Dialect.splitAtBlanks_dropDatabase? hname,
    fun _ => Dialect.delimitersIn_createDatabase? hsettings hname,
    fun _ => Dialect.delimitersIn_dropDatabase? hname, fun d' name' db' hdb' hne hsame => ?_⟩
  refine Dialect.creationWords_inj ?_ ?_
  · rw [← hcreate]
    exact fun hnone => hne (Option.map_eq_none_iff.mp hnone)
  · rw [← hcreate, ← splitAtBlanks_of_named hdb']
    exact congrArg _ hsame

/-- Of two settings and a name that are not plain the first setting is refused; plain ones make five
words. -/
theorem named_exactly_at_settings :
    named (.mysql "utf8; DROP" "x y") "my-app" =
        .error (.invalidSetting "charset" "utf8; DROP") ∧
      ∃ db, named (.postgres "UTF8") "app" = .ok db ∧
        (db.flavor.createDatabase? db.name).map splitAtBlanks =
          some ["CREATE", "DATABASE", "app", "ENCODING", "'UTF8'"] := by
  have hfirst : FirstUnplain (Dialect.mysql "utf8; DROP" "x y").flavor.settings
      ("charset", "utf8; DROP") := ⟨[], [("collation", "x y")], rfl, nofun, by decide⟩
  obtain ⟨-, hrefused, -⟩ := named_exactly (.mysql "utf8; DROP" "x y") "my-app"
  obtain ⟨hnamed, -, hstatements⟩ := named_exactly (.postgres "UTF8") "app"
  obtain ⟨db, hdb⟩ := hnamed.mpr ⟨by decide, by decide⟩
  exact ⟨(hrefused _).mpr (.inl ⟨_, hfirst, rfl⟩), db, hdb, (hstatements db hdb).1⟩

end Database

end TableScript
