import TableScript.Description.Decode
import TableScript.Proofs.Rereading
import TableScript.Proofs.Traversal

/-!
# Records by their members

Which objects stand for a record, said by their members alone: `Json.Holds` and `Json.Lacks` tell
what the last member with a key holds and that there is none, so the order of the members, earlier
members with the same key and members with other keys do not matter. `RecordWritten` and its parts
say which keys a record, a field and a constraint have and which of them may be left out.

Results:
* `Json.lookup?_eq_some_iff`, `Json.lookup?_eq_none_iff`: look-up is what `Json.Holds` and
  `Json.Lacks` say.
* `Description.accepts_string`, `Description.accepts_list`, `Description.accepts_optional`: a
  decoder `Accepts` what stands for a thing if it gives back the thing, and this passes from strings
  to lists and optional parts.
* `Description.accepts_field`, `Description.accepts_constraint`, `Description.accepts_record`: it
  passes from the members of an object to the object.
* `Description.recordWritten_recordJson`: every record has an object that stands for it, with every
  member written out.
* `Description.parse_described`: a text that holds an object for a record, or an array of them, is
  decoded to the records; and every record has such a text.
-/

namespace TableScript

namespace Json

/-! ## Members by key -/

/-- The last member with the key holds the value. -/
def Holds (ms : List (String × Value)) (key : String) (v : Value) : Prop :=
  ∃ pre post, ms = pre ++ (key, v) :: post ∧ ∀ m ∈ post, m.1 ≠ key

/-- No member has the key. -/
def Lacks (ms : List (String × Value)) (key : String) : Prop := ∀ m ∈ ms, m.1 ≠ key

variable {ms : List (String × Value)} {key : String} {v : Value}

theorem lookup?_eq_some_iff : lookup? key ms = some v ↔ Holds ms key v := by
  rw [lookup?, List.lookup_eq_some_iff]
  constructor
  · rintro ⟨post, pre, hsplit, hpost⟩
    refine ⟨pre.reverse, post.reverse, ?_, fun m hm => ?_⟩
    · simpa using congrArg List.reverse hsplit
    · exact (bne_iff_ne.mp (hpost m (List.mem_reverse.mp hm))).symm
  · rintro ⟨pre, post, rfl, hpost⟩
    refine ⟨post.reverse, pre.reverse, by simp, fun m hm => ?_⟩
    exact bne_iff_ne.mpr (hpost m (List.mem_reverse.mp hm)).symm

theorem lookup?_eq_none_iff : lookup? key ms = none ↔ Lacks ms key := by
  rw [lookup?, List.lookup_eq_none_iff]
  simp only [List.mem_reverse, bne_iff_ne, Lacks, ne_comm]

/-- Where no key is repeated, an object holds its members. -/
theorem holds_iff_mem (hnodup : (ms.map (·.1)).Nodup) : Holds ms key v ↔ (key, v) ∈ ms := by
  constructor
  · rintro ⟨pre, post, rfl, -⟩
    exact List.mem_append_right pre List.mem_cons_self
  · intro h
    obtain ⟨pre, post, rfl⟩ := List.append_of_mem h
    refine ⟨pre, post, rfl, fun m hm hkey => ?_⟩
    rw [List.map_append, List.map_cons] at hnodup
    have hfresh := (List.nodup_cons.mp (List.nodup_append.mp hnodup).2.1).1
    exact hfresh (List.mem_map.mpr ⟨m, hm, hkey⟩)

/-- The order of members does not matter where no key is repeated. -/
theorem lookup?_eq_of_perm {ns : List (String × Value)} (h : ms.Perm ns)
    (hnodup : (ms.map (·.1)).Nodup) : lookup? key ms = lookup? key ns := by
  ext v
  rw [lookup?_eq_some_iff, lookup?_eq_some_iff, holds_iff_mem hnodup,
    holds_iff_mem ((h.map _).nodup_iff.mp hnodup), h.mem_iff]

end Json

open Json (Value Holds Lacks)

namespace Description

/-! ## What stands for a thing -/

/-- A string stands for itself. -/
def TextWritten (s : String) (v : Value) : Prop := v = .string s

def FlagWritten (b : Bool) (v : Value) : Prop := v = .boolean b

variable {α : Type} {written : α → Value → Prop} {item : Decoder α}

/-- An array stands for a list, if its items stand for the things in the list. -/
def ListWritten (written : α → Value → Prop) (xs : List α) (v : Value) : Prop :=
  ∃ vs, v = .array vs ∧ List.Forall₂ written xs vs

/-- Null stands for nothing. -/
def OptionWritten (written : α → Value → Prop) : Option α → Value → Prop
  | none, v => v = .null
  | some x, v => written x v

/-- The object has the key, and what it holds there stands for `x`. -/
def Member (ms : List (String × Value)) (key : String) (written : α → Value → Prop) (x : α) :
    Prop :=
  ∃ v, Holds ms key v ∧ written x v

/-- So it is, or the object lacks the key and `x` is the default. -/
def MemberOr (default : α) (ms : List (String × Value)) (key : String)
    (written : α → Value → Prop) (x : α) : Prop :=
  Member ms key written x ∨ Lacks ms key ∧ x = default

/-- The objects that stand for a field. -/
inductive FieldWritten (f : FieldDescription) : Value → Prop where
  | object {ms : List (String × Value)} :
      Member ms "name" TextWritten f.name → Member ms "type" TextWritten f.type →
      MemberOr false ms "nullable" FlagWritten f.nullable →
      MemberOr false ms "primary_key" FlagWritten f.primaryKey →
      FieldWritten f (.object ms)

/-- The objects that stand for a constraint. -/
inductive ConstraintWritten (c : Constraint) : Value → Prop where
  | object {ms : List (String × Value)} :
      Member ms "type" TextWritten c.kind →
      Member ms "fields" (ListWritten TextWritten) c.fields →
      MemberOr none ms "extras" (OptionWritten TextWritten) c.extras →
      ConstraintWritten c (.object ms)

/-- The objects that stand for a record. -/
inductive RecordWritten (r : RecordDescription) : Value → Prop where
  | object {ms : List (String × Value)} :
      Member ms "name" TextWritten r.name →
      Member ms "fields" (ListWritten FieldWritten) r.fields →
      MemberOr none ms "id_fields" (OptionWritten (ListWritten TextWritten)) r.key? →
      MemberOr [] ms "constraints" (ListWritten ConstraintWritten) r.constraints →
      RecordWritten r (.object ms)

/-! ## Decoders -/

/-- What stands for a thing is decoded to the thing. -/
def Accepts (item : Decoder α) (written : α → Value → Prop) : Prop :=
  ∀ x v, written x v → item v = .ok x

theorem accepts_string : Accepts string TextWritten := by
  rintro s _ rfl
  rfl

theorem accepts_boolean : Accepts boolean FlagWritten := by
  rintro b _ rfl
  rfl

theorem accepts_list (h : Accepts item written) : Accepts (list item) (ListWritten written) := by
  rintro xs _ ⟨vs, rfl, hvs⟩
  exact mapM_eq_ok_iff_forall₂.mpr (hvs.flip.imp fun v x hx => h x v hx)

/-- Where null stands for nothing else, it may stand for nothing. -/
theorem accepts_optional (h : Accepts item written) (hnull : ∀ x, ¬ written x .null) :
    Accepts (optional item) (OptionWritten written) := by
  intro x? v hv
  cases x? with
  | none =>
    obtain rfl : v = .null := hv
    rfl
  | some x =>
    have hx : written x v := hv
    have hitem : some <$> item v = .ok (some x) := by
      rw [h x v hx]
      rfl
    cases v with
    | null => exact absurd hx (hnull x)
    | _ => exact hitem

variable {ms : List (String × Value)} {key : String} {x default : α}

theorem Member.member?_eq (h : Member ms key written x) (hitem : Accepts item written) :
    member? ms key item = .ok (some x) := by
  obtain ⟨v, hv, hx⟩ := h
  rw [member?, Json.lookup?_eq_some_iff.mpr hv]
  simp only [hitem x v hx]
  rfl

/-- A member that is left out is not there, and then `x` is the default. -/
theorem MemberOr.exists_member?_eq (h : MemberOr default ms key written x)
    (hitem : Accepts item written) :
    ∃ x?, member? ms key item = .ok x? ∧ x?.getD default = x := by
  rcases h with h | ⟨hlacks, rfl⟩
  · exact ⟨some x, h.member?_eq hitem, rfl⟩
  · exact ⟨none, by rw [member?, Json.lookup?_eq_none_iff.mpr hlacks], rfl⟩

theorem accepts_field : Accepts field FieldWritten := by
  rintro f _ ⟨hname, htype, hnullable, hprimaryKey⟩
  obtain ⟨nullable, hnullable, hdefault⟩ := hnullable.exists_member?_eq accepts_boolean
  obtain ⟨primaryKey, hprimaryKey, hdefault'⟩ := hprimaryKey.exists_member?_eq accepts_boolean
  rw [field, fieldOfMembers, hname.member?_eq accepts_string, hnullable, hprimaryKey,
    htype.member?_eq accepts_string]
  simp only [ok_bind, required, hdefault, hdefault']
  rfl

theorem join_eq_getD (x? : Option (Option α)) : x?.join = x?.getD none := by
  cases x? <;> rfl

theorem accepts_constraint : Accepts constraint ConstraintWritten := by
  rintro c _ ⟨hkind, hfields, hextras⟩
  have htext : Accepts (optional string) (OptionWritten TextWritten) :=
    accepts_optional accepts_string fun _ => nofun
  obtain ⟨extras, hextras, hdefault⟩ := hextras.exists_member?_eq htext
  rw [constraint, constraintOfMembers, hextras, hfields.member?_eq (accepts_list accepts_string),
    hkind.member?_eq accepts_string]
  simp only [ok_bind, required, join_eq_getD, hdefault]
  rfl

theorem accepts_record : Accepts record RecordWritten := by
  rintro r _ ⟨hname, hfields, hkey, hconstraints⟩
  have hnames : Accepts (optional (list string)) (OptionWritten (ListWritten TextWritten)) :=
    accepts_optional (accepts_list accepts_string) fun _ => by
      rintro ⟨vs, hnull, -⟩
      cases hnull
  obtain ⟨key, hkey, hdefault⟩ := hkey.exists_member?_eq hnames
  obtain ⟨constraints, hconstraints, hdefault'⟩ :=
    hconstraints.exists_member?_eq (accepts_list accepts_constraint)
  rw [record, recordOfMembers, hconstraints, hfields.member?_eq (accepts_list accepts_field), hkey,
    hname.member?_eq accepts_string]
  simp only [ok_bind, required, join_eq_getD, hdefault, hdefault']
  rfl

/-! ## Writing records -/

open Json (Plain)

section Writing

variable {toJson : α → Value} {depth : Nat}

/-- An array with what is written for each thing. -/
def listJson (toJson : α → Value) (xs : List α) : Value := .array (xs.map toJson)

/-- Null for nothing. -/
def optionJson (toJson : α → Value) : Option α → Value
  | none => .null
  | some x => toJson x

theorem listWritten_listJson (h : ∀ x, written x (toJson x)) (xs : List α) :
    ListWritten written xs (listJson toJson xs) :=
  ⟨_, rfl, List.forall₂_map_right_iff.mpr (List.forall₂_same.mpr fun x _ => h x)⟩

theorem optionWritten_optionJson (h : ∀ x, written x (toJson x)) :
    ∀ x? : Option α, OptionWritten written x? (optionJson toJson x?)
  | none => rfl
  | some x => h x

theorem plain_listJson (h : ∀ x, Plain depth (toJson x)) (xs : List α) :
    Plain (depth + 1) (listJson toJson xs) :=
  .array (List.forall_mem_map.mpr fun x _ => h x)

theorem plain_optionJson (h : ∀ x, Plain depth (toJson x)) :
    ∀ x? : Option α, Plain depth (optionJson toJson x?)
  | none => .null
  | some x => h x

end Writing

/-- A field with every member written out. -/
def fieldJson (f : FieldDescription) : Value :=
  .object [("name", .string f.name), ("type", .string f.type), ("nullable", .boolean f.nullable),
    ("primary_key", .boolean f.primaryKey)]

def constraintJson (c : Constraint) : Value :=
  .object [("type", .string c.kind), ("fields", listJson .string c.fields),
    ("extras", optionJson .string c.extras)]

def recordJson (r : RecordDescription) : Value :=
  .object [("name", .string r.name), ("fields", listJson fieldJson r.fields),
    ("id_fields", optionJson (listJson .string) r.key?),
    ("constraints", listJson constraintJson r.constraints)]

/-- The member that a look-up finds. -/
theorem Member.of_lookup? (h : Json.lookup? key ms = some v) (hx : written x v) :
    Member ms key written x :=
  ⟨v, Json.lookup?_eq_some_iff.mp h, hx⟩

theorem textWritten_string (s : String) : TextWritten s (.string s) := rfl

theorem fieldWritten_fieldJson (f : FieldDescription) : FieldWritten f (fieldJson f) :=
  .object (.of_lookup? rfl rfl) (.of_lookup? rfl rfl) (.inl (.of_lookup? rfl rfl))
    (.inl (.of_lookup? rfl rfl))

theorem constraintWritten_constraintJson (c : Constraint) :
    ConstraintWritten c (constraintJson c) :=
  .object (.of_lookup? rfl rfl) (.of_lookup? rfl (listWritten_listJson textWritten_string _))
    (.inl (.of_lookup? rfl (optionWritten_optionJson textWritten_string _)))

theorem recordWritten_recordJson (r : RecordDescription) : RecordWritten r (recordJson r) :=
  .object (.of_lookup? rfl rfl) (.of_lookup? rfl (listWritten_listJson fieldWritten_fieldJson _))
    (.inl (.of_lookup? rfl (optionWritten_optionJson (listWritten_listJson textWritten_string) _)))
    (.inl (.of_lookup? rfl (listWritten_listJson constraintWritten_constraintJson _)))

theorem plain_fieldJson (depth : Nat) (f : FieldDescription) : Plain (depth + 1) (fieldJson f) :=
  .object_cons (.string _) <| .object_cons (.string _) <| .object_cons (.boolean _) <|
    .object_cons (.boolean _) .object_nil

theorem plain_constraintJson (depth : Nat) (c : Constraint) :
    Plain (depth + 2) (constraintJson c) :=
  .object_cons (.string _) <| .object_cons (plain_listJson .string _) <|
    .object_cons (plain_optionJson .string _) .object_nil

theorem plain_recordJson (depth : Nat) (r : RecordDescription) :
    Plain (depth + 4) (recordJson r) :=
  .object_cons (.string _) <| .object_cons (plain_listJson (plain_fieldJson _) _) <|
    .object_cons (plain_optionJson (plain_listJson .string) _) <|
      .object_cons (plain_listJson (plain_constraintJson depth) _) .object_nil

/-! ## Texts of records -/

/-- The value that a text holds decides what is decoded. -/
theorem parse_of_read {source text : String} (h : Json.read text = .ok v) :
    parse source text = (records v).mapError fun reason =>
      .invalidDescription source ⟨reason, none⟩ := by
  rw [parse, h]

/-- **A text says what its members say.** If a text holds an object that stands for a record, then
it is decoded to this record; if it holds an array of such objects, then to their records in order.
Every record and every list of records has such a text. -/
theorem parse_described (source : String) :
    (∀ text v, Json.read text = .ok v →
      (∀ r, RecordWritten r v → parse source text = .ok [r]) ∧
        ∀ rs, ListWritten RecordWritten rs v → parse source text = .ok rs) ∧
      (∀ r, ∃ text v, Json.read text = .ok v ∧ RecordWritten r v) ∧
      ∀ rs, ∃ text v, Json.read text = .ok v ∧ ListWritten RecordWritten rs v := by
  refine ⟨fun text v hread => ⟨fun r hr => ?_, fun rs hrs => ?_⟩, fun r => ?_, fun rs => ?_⟩
  · have hrecord := accepts_record r v hr
    cases hr with
    | object =>
      rw [parse_of_read hread]
      simp only [records, hrecord]
      rfl
  · have hrecords := accepts_list accepts_record rs v hrs
    obtain ⟨vs, rfl, -⟩ := hrs
    rw [list] at hrecords
    rw [parse_of_read hread, records, hrecords]
    rfl
  · exact ⟨_, _, Json.read_compact (plain_recordJson 123 r), recordWritten_recordJson r⟩
  · exact ⟨_, _, Json.read_compact (plain_listJson (plain_recordJson 122) rs),
      listWritten_listJson recordWritten_recordJson rs⟩

/-- The members in another order, some left out or null, and others between them. -/
def oddText : String :=
  "\x7b\"id_fields\":null,\"fields\":[\x7b\"type\":\"UUID\",\"x\":[],\"name\":\"id\"\x7d]," ++
    "\"type\":0,\"name\":\"a\"\x7d"

/-- The value that the odd text holds. -/
def oddValue : Value :=
  .object [("id_fields", .null),
    ("fields", .array [.object [("type", .string "UUID"), ("x", .array []),
      ("name", .string "id")]]),
    ("type", .number (.natural 0)), ("name", .string "a")]

theorem read_oddText : Json.read oddText = .ok oddValue := by rfl

/-- The record that the odd text describes. -/
def oddRecord : RecordDescription := ⟨"a", [⟨"id", "UUID", false, false⟩], none, []⟩

theorem recordWritten_oddValue : RecordWritten oddRecord oddValue := by
  have hfield : FieldWritten ⟨"id", "UUID", false, false⟩
      (.object [("type", .string "UUID"), ("x", .array []), ("name", .string "id")]) :=
    .object (.of_lookup? rfl rfl) (.of_lookup? rfl rfl)
      (.inr ⟨Json.lookup?_eq_none_iff.mp rfl, rfl⟩) (.inr ⟨Json.lookup?_eq_none_iff.mp rfl, rfl⟩)
  exact .object (.of_lookup? rfl rfl) (.of_lookup? rfl ⟨_, rfl, .cons hfield .nil⟩)
    (.inl (.of_lookup? rfl rfl)) (.inr ⟨Json.lookup?_eq_none_iff.mp rfl, rfl⟩)

/-- Two objects in an array, with their members in different orders. -/
def twoText : String :=
  "[\x7b\"fields\":[],\"name\":\"a\"\x7d,\x7b\"name\":\"b\",\"fields\":[]\x7d]"

/-- One object with its members in an odd order, and an array of two. -/
theorem parse_oddText :
    parse "odd.json" oddText = .ok [oddRecord] ∧
      parse "two.json" twoText = .ok [⟨"a", [], none, []⟩, ⟨"b", [], none, []⟩] := by
  have hread : Json.read twoText =
      .ok (.array [.object [("fields", .array []), ("name", .string "a")],
        .object [("name", .string "b"), ("fields", .array [])]]) := by rfl
  have hwritten (name : String) (ms : List (String × Value))
      (hname : Json.lookup? "name" ms = some (.string name))
      (hfields : Json.lookup? "fields" ms = some (.array []))
      (hkey : Json.lookup? "id_fields" ms = none) (hmore : Json.lookup? "constraints" ms = none) :
      RecordWritten ⟨name, [], none, []⟩ (.object ms) :=
    .object (.of_lookup? hname rfl) (.of_lookup? hfields ⟨[], rfl, .nil⟩)
      (.inr ⟨Json.lookup?_eq_none_iff.mp hkey, rfl⟩) (.inr ⟨Json.lookup?_eq_none_iff.mp hmore, rfl⟩)
  constructor
  · exact ((parse_described "odd.json").1 oddText oddValue read_oddText).1 oddRecord
      recordWritten_oddValue
  · exact ((parse_described "two.json").1 _ _ hread).2 _
      ⟨_, rfl, .cons (hwritten "a" _ rfl rfl rfl rfl) (.cons (hwritten "b" _ rfl rfl rfl rfl) .nil)⟩

end Description

end TableScript
