import Mathlib.Data.List.Nodup
import Mathlib.Data.List.Perm.Subperm
import TableScript.Configuration.Decode
import TableScript.Proofs.Rereading

/-!
# Ways to write a configuration

The members of an object may stand in any order, and a member that says what goes without saying may
be left out (`Rearranges`). `DialectSettings.Written` and `Configuration.Written` are the objects
that come about in this way.

A dialect collects its settings until the object ends, whether its kind is known by then or not, and
only then are they looked up by name, with defaults for those that are not there. A configuration
keeps each part when it comes to it; `Found.Awaits` is what holds between two members.

Results:
* `Rearranges.lookup_getD`: a member is found by its key, or by its default where it is left out.
* `dialectContent_object`: a dialect is read as its kind and its settings, wherever the kind stands.
* `dialectOf_written`: the settings make the dialect again, those left out being the defaults.
* `configurationMembers_awaited`: a configuration is read a part at a time, whatever part comes
  first, by induction on the keys that are still to come.
* `parse_written`: every object that stands for a configuration, or for a dialect on its own, is
  read as that; and so are the texts with every key written out.
-/

namespace TableScript

/-! ## Members in any order -/

/-- `ms` are members of `full`, each at most once and in any order. What is left out is optional. -/
structure Rearranges {α : Type} (optional : α → Prop) (ms full : List α) : Prop where
  subperm : ms.Subperm full
  optional_of_not_mem : ∀ m ∈ full, m ∉ ms → optional m

namespace Rearranges

variable {α : Type} {optional : α → Prop} {ms full : List α}

theorem refl (ms : List α) : Rearranges optional ms ms := ⟨.refl ms, fun _ h hnot => absurd h hnot⟩

theorem mem (h : Rearranges optional ms full) {m : α} (hm : m ∈ ms) : m ∈ full := h.subperm.subset hm

theorem nodup_map {β : Type} {f : α → β} (h : Rearranges optional ms full)
    (hfull : (full.map f).Nodup) : (ms.map f).Nodup := by
  obtain ⟨l, hperm, hsublist⟩ := h.subperm
  exact (hperm.map f).nodup_iff.mp ((hsublist.map f).nodup hfull)

/-- A member that is not optional is somewhere among the others. -/
theorem exists_split {m : α} (h : Rearranges optional ms (m :: full)) (hm : ¬ optional m)
    (hfresh : m ∉ full) : ∃ pre post, ms = pre ++ m :: post ∧
      Rearranges optional (pre ++ post) full := by
  have hthere : m ∈ ms := by
    by_contra hnot
    exact hm (h.optional_of_not_mem m List.mem_cons_self hnot)
  obtain ⟨pre, post, rfl⟩ := List.append_of_mem hthere
  refine ⟨pre, post, rfl, ?_, ?_⟩
  · exact (List.subperm_cons m).mp (List.perm_middle.subperm_right.mp h.subperm)
  · intro n hn hnot
    have hne : n ≠ m := fun heq => hfresh (heq ▸ hn)
    refine h.optional_of_not_mem n (List.mem_cons_of_mem m hn) fun hin => hnot ?_
    rw [List.mem_append, List.mem_cons] at hin
    rw [List.mem_append]
    exact hin.imp_right fun htail => htail.resolve_left hne

end Rearranges

section Lookup

variable {β : Type}

theorem lookup_of_fresh {ms : List (String × β)} {key : String} (h : key ∉ ms.map (·.1)) :
    ms.lookup key = none := by
  refine List.lookup_eq_none_iff.mpr fun m hm => bne_iff_ne.mpr fun heq => h ?_
  exact List.mem_map.mpr ⟨m, hm, heq.symm⟩

/-- No member in front of another has its key, if no key is there twice. -/
theorem lookup_in_front {pre post : List (String × β)} {m : String × β}
    (hnodup : ((pre ++ m :: post).map (·.1)).Nodup) : pre.lookup m.1 = none := by
  rw [List.map_append, List.map_cons, List.nodup_middle, List.nodup_cons] at hnodup
  exact lookup_of_fresh fun hin => hnodup.1 (List.mem_append_left _ hin)

theorem lookup_of_mem {ms : List (String × β)} (hnodup : (ms.map (·.1)).Nodup) {key : String}
    {x : β} (h : (key, x) ∈ ms) : ms.lookup key = some x := by
  obtain ⟨pre, post, rfl⟩ := List.append_of_mem h
  rw [List.lookup_append, lookup_in_front hnodup, Option.none_or, List.lookup_cons_self]

/-- A member is found by its key, or by its default where it is left out. -/
theorem Rearranges.lookup_getD {optional : String × β → Prop}
    {ms full : List (String × β)} (h : Rearranges optional ms full)
    (hfull : (full.map (·.1)).Nodup) {key : String} {x y : β} (hm : (key, x) ∈ full)
    (hdefault : optional (key, x) → x = y) : (ms.lookup key).getD y = x := by
  by_cases hthere : (key, x) ∈ ms
  · rw [lookup_of_mem (h.nodup_map hfull) hthere]
    rfl
  · have hfresh : key ∉ ms.map (·.1) := by
      intro hkey
      obtain ⟨m, hin, hsame⟩ := List.mem_map.mp hkey
      obtain rfl := List.inj_on_of_nodup_map hfull (h.mem hin) hm hsame
      exact hthere hin
    rw [lookup_of_fresh hfresh]
    exact (hdefault (h.optional_of_not_mem _ hm hthere)).symm

end Lookup

/-- A member that holds a text. -/
def textMember (m : String × String) : String × Json.Value := (m.1, .string m.2)

/-! ## Dialects -/

namespace DialectSettings

/-- Names and values of the members of a dialect. -/
def members (d : DialectSettings) : List (String × String) := ("type", d.kind.name) :: d.settings

theorem toJson_eq (d : DialectSettings) : d.toJson = .object (d.members.map textMember) := by
  cases d <;> rfl

/-- A setting that the dialect has also where it is not given. -/
def IsDefault (d : DialectSettings) (s : String × String) : Prop := s ∈ (ofKind d.kind).settings

/-- The objects that stand for a dialect. -/
def Written (d : DialectSettings) (v : Json.Value) : Prop :=
  ∃ ms, Rearranges d.IsDefault ms d.members ∧ v = .object (ms.map textMember)

theorem written_toJson (d : DialectSettings) : d.Written d.toJson :=
  ⟨d.members, .refl _, d.toJson_eq⟩

theorem nodup_members (d : DialectSettings) : (d.members.map (·.1)).Nodup := by
  cases d with
  | mysql charset collation => exact (by decide : ["type", "charset", "collation"].Nodup)
  | postgres encoding => exact (by decide : ["type", "encoding"].Nodup)
  | sqlite => exact (by decide : ["type"].Nodup)

@[simp] theorem isDefault_mysql {charset collation : String} {s : String × String} :
    (mysql charset collation).IsDefault s ↔
      s = ("charset", defaultCharset) ∨ s = ("collation", defaultCollation) := by
  simp [IsDefault, kind, ofKind, settings]

@[simp] theorem isDefault_postgres {encoding : String} {s : String × String} :
    (postgres encoding).IsDefault s ↔ s = ("encoding", defaultEncoding) := by
  simp [IsDefault, kind, ofKind, settings]

theorem type_not_isDefault (d : DialectSettings) (name : String) :
    ¬ d.IsDefault ("type", name) := by
  cases d <;> simp [IsDefault, kind, ofKind, settings]

end DialectSettings

namespace Configuration

open Json

variable {depth fuel : Nat} {first : Bool} {kind? : Option DialectKind} {kind : DialectKind}
  {found : List (String × Value)}

/-! ### Reading the members -/

theorem wantedString_quoted (wanted s : String) (rest : List Char) :
    wantedString wanted (quoted s ++ rest) = .ok (s, rest) := by
  rw [wantedString, skipBlanks_quoted]
  exact string_quotedTail s rest

theorem dialectKind_quoted (kind : DialectKind) (rest : List Char) :
    dialectKind (quoted kind.name ++ rest) = .ok (kind, rest) := by
  rw [dialectKind, wantedString_quoted]
  cases kind <;> rfl

/-- A setting is kept as it is. -/
theorem dialectMembers_setting {s : String × String} (hs : s.1 ≠ "type")
    (ms : List (String × Value)) (rest : List Char) :
    dialectMembers depth (fuel + 1) first kind? found
        (membersText first (textMember s :: ms) ++ rest) =
      dialectMembers depth fuel false kind? (found ++ [textMember s])
        (membersText false ms ++ rest) := by
  rw [dialectMembers, nextMember_membersText_cons]
  simp only [ok_bind, string_quotedTail, textMember, if_neg hs, colon_memberTail, compact,
    value_quoted]

/-- So are several in a row, whether the kind is known or not. -/
theorem dialectMembers_settings (settings : List (String × String))
    (hsettings : ∀ s ∈ settings, s.1 ≠ "type") (ms : List (String × Value)) (rest : List Char) :
    dialectMembers depth (settings.length + fuel) first kind? found
        (membersText first (settings.map textMember ++ ms) ++ rest) =
      dialectMembers depth fuel (first && settings.isEmpty) kind?
        (found ++ settings.map textMember)
        (membersText (first && settings.isEmpty) ms ++ rest) := by
  induction settings generalizing first found with
  | nil => simp
  | cons s settings ih =>
    rw [List.length_cons, Nat.add_right_comm, List.map_cons, List.cons_append,
      dialectMembers_setting (hsettings s List.mem_cons_self),
      ih fun t ht => hsettings t (List.mem_cons_of_mem s ht)]
    simp

theorem dialectMembers_kind (kind : DialectKind) (ms : List (String × Value)) (rest : List Char) :
    dialectMembers depth (fuel + 1) first none found
        (membersText first (textMember ("type", kind.name) :: ms) ++ rest) =
      dialectMembers depth fuel false (some kind) found (membersText false ms ++ rest) := by
  rw [dialectMembers, nextMember_membersText_cons]
  simp only [ok_bind, string_quotedTail, textMember, if_pos, Option.isSome_none,
    Bool.false_eq_true, if_false, colon_memberTail, compact, dialectKind_quoted]

theorem dialectMembers_end (kind : DialectKind) (rest : List Char) :
    dialectMembers depth (fuel + 1) first (some kind) found
        (membersText first [] ++ '\x7d' :: rest) = .ok ((kind, .members found), rest) := rfl

/-- **A dialect is read as its kind and its settings**, wherever the kind stands among them. -/
theorem dialectContent_object (depth : Nat) {pre post : List (String × String)}
    (hpre : ∀ s ∈ pre, s.1 ≠ "type") (hpost : ∀ s ∈ post, s.1 ≠ "type") (kind : DialectKind)
    (rest : List Char) :
    dialectContent depth
        (compact (.object ((pre ++ ("type", kind.name) :: post).map textMember)) ++ rest) =
      .ok ((kind, .members ((pre ++ post).map textMember)), rest) := by
  rw [compact_object]
  show dialectMembers depth _ true none [] _ = _
  -- The fuel is the length of the text: a step for every member, one for the bracket, and more.
  have hlength := length_le_length_membersText true
    ((pre ++ ("type", kind.name) :: post).map textMember)
  obtain ⟨fuel, hfuel⟩ := Nat.exists_eq_add_of_le hlength
  have hsteps : (membersText true ((pre ++ ("type", kind.name) :: post).map textMember) ++
      '\x7d' :: rest).length + 1 =
        pre.length + (post.length + (fuel + rest.length + 1 + 1) + 1) := by
    rw [List.length_append, hfuel]
    simp only [List.length_append, List.length_map, List.length_cons]
    omega
  rw [hsteps, List.map_append, List.map_cons, dialectMembers_settings pre hpre,
    dialectMembers_kind, ← List.append_nil (post.map textMember),
    dialectMembers_settings post hpost, dialectMembers_end, List.map_append, List.nil_append]

/-! ### Looking the settings up -/

/-- Known settings are found as they stand, if none of them is there twice. -/
theorem memberSettings_eq {known : List String} {found settings : List (String × String)}
    (hknown : ∀ s ∈ settings, s.1 ∈ known)
    (hnodup : ((found ++ settings).map (·.1)).Nodup) :
    memberSettings known found (settings.map textMember) = .ok (found ++ settings) := by
  induction settings generalizing found with
  | nil => rw [List.append_nil]; rfl
  | cons s settings ih =>
    have hfresh := lookup_in_front hnodup
    rw [List.append_cons] at hnodup
    have hrest := ih (fun t ht => hknown t (List.mem_cons_of_mem s ht)) hnodup
    rw [List.map_cons, textMember, memberSettings, if_pos (hknown s List.mem_cons_self), hfresh]
    simpa [settingText] using hrest

/-- **The settings make the dialect again**, those left out being the defaults. -/
theorem dialectOf_written {d : DialectSettings} {settings : List (String × String)}
    (h : Rearranges d.IsDefault settings d.settings) :
    dialectOf d.kind (.members (settings.map textMember)) = .ok d := by
  have hnodup : (d.settings.map (·.1)).Nodup := (List.nodup_cons.mp d.nodup_members).2
  have hknown : ∀ s ∈ settings, s.1 ∈ d.settings.map (·.1) :=
    fun s hs => List.mem_map_of_mem (h.mem hs)
  have hfound : Content.settings (d.settings.map (·.1))
      (.members (settings.map textMember)) = .ok settings :=
    memberSettings_eq hknown (h.nodup_map hnodup)
  cases d with
  | mysql charset collation =>
    have hcharset : (settings.lookup "charset").getD DialectSettings.defaultCharset = charset :=
      h.lookup_getD hnodup (by simp [DialectSettings.settings]) fun hdefault => by
        simpa using hdefault
    have hcollation : (settings.lookup "collation").getD DialectSettings.defaultCollation = collation :=
      h.lookup_getD hnodup (by simp [DialectSettings.settings]) fun hdefault => by
        simpa using hdefault
    refine bind_eq_ok_iff.mpr ⟨settings, hfound, ?_⟩
    rw [hcharset, hcollation]
    rfl
  | postgres encoding =>
    have hencoding : (settings.lookup "encoding").getD DialectSettings.defaultEncoding = encoding :=
      h.lookup_getD hnodup (by simp [DialectSettings.settings]) fun hdefault => by
        simpa using hdefault
    refine bind_eq_ok_iff.mpr ⟨settings, hfound, ?_⟩
    rw [hencoding]
    rfl
  | sqlite => exact bind_eq_ok_iff.mpr ⟨settings, hfound, rfl⟩

/-- **Every object that stands for a dialect is read as that dialect.** -/
theorem dialectContent_written (depth : Nat) {d : DialectSettings} {v : Value} (h : d.Written v)
    (rest : List Char) : ∃ content,
      dialectContent depth (compact v ++ rest) = .ok ((d.kind, content), rest) ∧
        dialectOf d.kind content = .ok d := by
  obtain ⟨ms, hms, rfl⟩ := h
  have hnodup := List.nodup_cons.mp d.nodup_members
  obtain ⟨pre, post, rfl, hsettings⟩ := hms.exists_split (d.type_not_isDefault _) fun hin =>
    hnodup.1 (List.mem_map_of_mem hin)
  have htype : ∀ s ∈ pre ++ post, s.1 ≠ "type" := fun s hs heq =>
    hnodup.1 (List.mem_map.mpr ⟨s, hsettings.mem hs, heq⟩)
  exact ⟨_, dialectContent_object depth (fun s hs => htype s (List.mem_append_left _ hs))
    (fun s hs => htype s (List.mem_append_right _ hs)) d.kind rest, dialectOf_written hsettings⟩

theorem dialectInside_written (close : List Char → List Char) {d : DialectSettings} {v : Value}
    (h : d.Written v) (rest : List Char) :
    dialectInside close (compact v ++ rest) = .ok (d, rest) := by
  obtain ⟨content, hcontent, hd⟩ := dialectContent_written 2 h rest
  rw [dialectInside, hcontent, ok_bind]
  simp only [hd]

theorem parseDialect_written {d : DialectSettings} {v : Value} (h : d.Written v) :
    parseDialect (String.ofList (compact v)) = .ok d := by
  obtain ⟨content, hcontent, hd⟩ := dialectContent_written 1 h []
  rw [List.append_nil] at hcontent
  rw [parseDialect, String.toList_ofList, hcontent]
  simp only [Except.mapError, ok_bind, hd, finish_nil]

/-! ## Configurations -/

/-- The name of a database, or null. -/
def databaseValue : Option String → Value
  | none => .null
  | some name => .string name

/-- A part that the configuration has also where it is not given. -/
def IsDefault (c : Configuration) (m : String × Value) : Prop :=
  m.1 = "dialect" ∧ c.dialect = default ∨ m.1 = "database" ∧ c.database = none

/-- The objects that stand for a configuration. -/
def Written (c : Configuration) (v : Value) : Prop :=
  ∃ dialect ms, c.dialect.Written dialect ∧
    Rearranges c.IsDefault ms [("dialect", dialect), ("database", databaseValue c.database)] ∧
      v = .object ms

theorem written_toJson (c : Configuration) : c.Written c.toJson := by
  refine ⟨c.dialect.toJson, _, c.dialect.written_toJson, .refl _, ?_⟩
  rw [toJson]
  cases c.database <;> rfl

/-! ### Reading the parts -/

theorem databaseName_databaseValue (database : Option String) (rest : List Char) :
    databaseName (compact (databaseValue database) ++ rest) = .ok (database, rest) := by
  cases database with
  | none => rfl
  | some name =>
    rw [databaseValue, compact, databaseName, skipBlanks_quoted]
    show (wantedString "a string" (quoted name ++ rest) >>= _) = _
    rw [wantedString_quoted]
    rfl

variable {c : Configuration} {dialect : Value} {parts : Found}

theorem configurationMembers_dialect (hdialect : c.dialect.Written dialect)
    (hparts : parts.dialect? = none) (ms : List (String × Value)) (rest : List Char) :
    configurationMembers (fuel + 1) first parts
        (membersText first (("dialect", dialect) :: ms) ++ rest) =
      configurationMembers fuel false { parts with dialect? := some c.dialect }
        (membersText false ms ++ rest) := by
  rw [configurationMembers, nextMember_membersText_cons]
  simp only [ok_bind, string_quotedTail, if_pos, hparts, Option.isSome_none, Bool.false_eq_true,
    if_false, colon_memberTail, dialectInside_written closeObject hdialect]

theorem configurationMembers_database (hparts : parts.database? = none)
    (ms : List (String × Value)) (rest : List Char) :
    configurationMembers (fuel + 1) first parts
        (membersText first (("database", databaseValue c.database) :: ms) ++ rest) =
      configurationMembers fuel false { parts with database? := some c.database }
        (membersText false ms ++ rest) := by
  have hkey : "database" ≠ "dialect" := by decide
  rw [configurationMembers, nextMember_membersText_cons]
  simp only [ok_bind, string_quotedTail, if_neg hkey, if_pos, hparts, Option.isSome_none,
    Bool.false_eq_true, if_false, colon_memberTail, databaseName_databaseValue]

/-- The parts of `c` that are read so far, while these keys are still to come: a part that is to
come is not there yet, and any other part is there or goes without saying. -/
structure Found.Awaits (parts : Found) (c : Configuration) (keys : List String) : Prop where
  dialect : if "dialect" ∈ keys then parts.dialect? = none
    else parts.dialect?.getD default = c.dialect
  database : if "database" ∈ keys then parts.database? = none else parts.database?.join = c.database

namespace Found.Awaits

variable {keys : List String}

theorem configuration_eq (h : parts.Awaits c []) : parts.configuration = c := by
  have hdialect : parts.dialect?.getD default = c.dialect := h.dialect
  have hdatabase : parts.database?.join = c.database := h.database
  rw [configuration, hdialect, hdatabase]

theorem read_dialect (h : parts.Awaits c ("dialect" :: keys)) (hfresh : "dialect" ∉ keys) :
    ({ parts with dialect? := some c.dialect } : Found).Awaits c keys where
  dialect := by rw [if_neg hfresh]; rfl
  database := by simpa using h.database

theorem read_database (h : parts.Awaits c ("database" :: keys)) (hfresh : "database" ∉ keys) :
    ({ parts with database? := some c.database } : Found).Awaits c keys where
  dialect := by simpa using h.dialect
  database := by rw [if_neg hfresh]; rfl

end Found.Awaits

/-- **A configuration is read a part at a time**, whatever part comes first. -/
theorem configurationMembers_awaited (hdialect : c.dialect.Written dialect)
    {ms : List (String × Value)}
    (hms : ∀ m ∈ ms, m ∈ [("dialect", dialect), ("database", databaseValue c.database)])
    (hnodup : (ms.map (·.1)).Nodup) (hparts : parts.Awaits c (ms.map (·.1))) (rest : List Char) :
    configurationMembers (ms.length + (fuel + 1)) first parts
      (membersText first ms ++ '\x7d' :: rest) = .ok (c, rest) := by
  induction ms generalizing first parts with
  | nil =>
    rw [List.length_nil, Nat.zero_add, configurationMembers, nextMember_membersText_nil]
    simp only [ok_bind, hparts.configuration_eq]
  | cons m ms ih =>
    rw [List.length_cons, Nat.add_right_comm]
    obtain ⟨hfresh, hrest⟩ := List.nodup_cons.mp hnodup
    have hms' := fun n hn => hms n (List.mem_cons_of_mem m hn)
    rcases List.mem_pair.mp (hms m List.mem_cons_self) with rfl | rfl
    · have hnone : parts.dialect? = none := by simpa using hparts.dialect
      rw [configurationMembers_dialect hdialect hnone]
      exact ih hms' hrest (hparts.read_dialect hfresh)
    · have hnone : parts.database? = none := by simpa using hparts.database
      rw [configurationMembers_database hnone]
      exact ih hms' hrest (hparts.read_database hfresh)

/-- Before the first member, the parts that are left out go without saying. -/
theorem awaits_nothing {ms : List (String × Value)}
    (h : Rearranges c.IsDefault ms
      [("dialect", dialect), ("database", databaseValue c.database)]) :
    Found.nothing.Awaits c (ms.map (·.1)) where
  dialect := by
    split
    · rfl
    · next hkey =>
      rcases h.optional_of_not_mem ("dialect", dialect) (by simp) fun hin =>
        hkey (List.mem_map_of_mem hin) with ⟨-, hdefault⟩ | ⟨hname, -⟩
      · exact hdefault.symm
      · exact absurd hname (by simp)
  database := by
    split
    · rfl
    · next hkey =>
      rcases h.optional_of_not_mem ("database", databaseValue c.database) (by simp) fun hin =>
        hkey (List.mem_map_of_mem hin) with ⟨hname, -⟩ | ⟨-, hdefault⟩
      · exact absurd hname (by simp)
      · exact hdefault.symm

theorem parse_text_written {v : Value} (h : c.Written v) :
    parse (String.ofList (compact v)) = .ok c := by
  obtain ⟨dialect, ms, hdialect, hms, rfl⟩ := h
  obtain ⟨fuel, hfuel⟩ := Nat.exists_eq_add_of_le (length_le_length_membersText true ms)
  have hnodup : (ms.map (·.1)).Nodup := hms.nodup_map (by simp)
  have hconfiguration : configuration (compact (.object ms) ++ []) = .ok (c, []) := by
    rw [compact_object]
    show configurationMembers _ true Found.nothing _ = _
    have hsteps : (membersText true ms ++ ['\x7d']).length + 1 = ms.length + (fuel + 1 + 1) := by
      rw [List.length_append, hfuel]
      rfl
    rw [hsteps]
    exact configurationMembers_awaited hdialect (fun m hm => hms.mem hm) hnodup
      (awaits_nothing hms) []
  rw [List.append_nil] at hconfiguration
  rw [parse, String.toList_ofList, hconfiguration]
  simp only [ok_bind, finish_nil, Except.mapError]

/-- **What is written is read back.** A configuration is read from its text, and from the text of
every object that differs from it in the order of the members, of the configuration or of its
dialect, and in members left out whose values are the defaults. So is a dialect on its own. -/
theorem parse_written :
    (∀ c : Configuration, parse c.text = .ok c ∧
      ∀ v, c.Written v → parse (String.ofList (compact v)) = .ok c) ∧
    ∀ d : DialectSettings, parseDialect d.text = .ok d ∧
      ∀ v, d.Written v → parseDialect (String.ofList (compact v)) = .ok d :=
  ⟨fun c => ⟨parse_text_written c.written_toJson, fun _ => parse_text_written⟩,
    fun d => ⟨parseDialect_written d.written_toJson, fun _ => parseDialect_written⟩⟩

/-- A dialect with a setting that needs escapes. -/
def oddDialect : DialectSettings := .mysql "a\"\x01" DialectSettings.defaultCollation

/-- The odd dialect with its kind last and without its collation. -/
def oddValue : Value := .object [("charset", .string "a\"\x01"), ("type", .string "mysql")]

theorem written_oddValue : oddDialect.Written oddValue := by
  refine ⟨[("charset", "a\"\x01"), ("type", "mysql")], ⟨?_, ?_⟩, rfl⟩
  · exact List.subperm_of_subset (by decide) (by decide)
  · unfold DialectSettings.IsDefault
    decide

/-- The odd dialect is read on its own and behind the name of a database, and an object without any
members stands for the default configuration. -/
theorem parse_written_oddValue :
    parseDialect "\x7b\"charset\":\"a\\\"\\u0001\",\"type\":\"mysql\"\x7d" = .ok oddDialect ∧
      parse ("\x7b\"database\":\"shop\",\"dialect\":" ++
        "\x7b\"charset\":\"a\\\"\\u0001\",\"type\":\"mysql\"\x7d\x7d") =
          .ok ⟨oddDialect, some "shop"⟩ ∧
      parse "\x7b\x7d" = .ok ⟨default, none⟩ := by
  have hdialect : String.ofList (compact oddValue) =
      "\x7b\"charset\":\"a\\\"\\u0001\",\"type\":\"mysql\"\x7d" := by decide
  have hshop :
      String.ofList (compact (.object [("database", .string "shop"), ("dialect", oddValue)])) =
        "\x7b\"database\":\"shop\",\"dialect\":" ++
          "\x7b\"charset\":\"a\\\"\\u0001\",\"type\":\"mysql\"\x7d\x7d" := by decide
  have hempty : String.ofList (compact (.object [])) = "\x7b\x7d" := by decide
  have hwritten : Written ⟨oddDialect, some "shop"⟩
      (.object [("database", .string "shop"), ("dialect", oddValue)]) := by
    refine ⟨oddValue, _, written_oddValue, ⟨?_, ?_⟩, rfl⟩
    · exact (List.Perm.swap _ _ []).subperm
    · simp [databaseValue]
  have hdefault : Written ⟨default, none⟩ (.object []) := by
    refine ⟨_, _, DialectSettings.written_toJson _, ⟨List.nil_subperm, ?_⟩, rfl⟩
    simp [IsDefault]
  rw [← hdialect, ← hshop, ← hempty]
  exact ⟨(parse_written.2 _).2 _ written_oddValue, (parse_written.1 _).2 _ hwritten,
    (parse_written.1 _).2 _ hdefault⟩

end Configuration

end TableScript
