import TableScript.Description.Decode
import TableScript.Proofs.Members
import TableScript.Proofs.Traversal

/-!
# Many texts or one array

Two values are the same (`Json.Value.Same`) if they differ only in the order of members, in earlier
members with the same key, and in how a decimal is spelled. No decoder tells such values apart, so
texts that hold the same values are decoded alike, each on its own or all in one array.

`Alike` outcomes are equal results, or failures with one message. It is closed under the steps that
decoders are made of (`Alike.bind`, `Alike.mapM`), and a decoder `Respects` values if it is alike on
those that are the same.

Results:
* `Json.Value.Same.of_perm`: an object is the same in another order of its members, if no key is
  repeated.
* `Description.respects_field`, `Description.respects_constraint`, `Description.respects_record`:
  the decoders respect values, whatever is wrong in them, however deep.
* `Description.mapM_record_of_parse`: the records of single texts are those of their values.
* `Description.parse_array_gathers`: one array is decoded to the records of all texts in order, or
  refused for what the first text that fails is refused for.
-/

namespace TableScript

namespace Json

/-! ## The same value -/

/-- The same number; decimals are doubles. -/
inductive Number.Same : Number → Number → Prop where
  | natural (n : Nat) : Number.Same (.natural n) (.natural n)
  | negative (n : Nat) : Number.Same (.negative n) (.negative n)
  | decimal {isNegative isNegative' : Bool} {significand significand' : Nat}
      {exponent exponent' : Int} :
      toFloat? isNegative significand exponent = toFloat? isNegative' significand' exponent' →
      Number.Same (.decimal isNegative significand exponent)
        (.decimal isNegative' significand' exponent')

/-- The same value, where an object is what its keys find. -/
inductive Value.Same : Value → Value → Prop where
  | null : Value.Same .null .null
  | boolean (b : Bool) : Value.Same (.boolean b) (.boolean b)
  | number {m n : Number} : m.Same n → Value.Same (.number m) (.number n)
  | string (s : String) : Value.Same (.string s) (.string s)
  | array {vs ws : List Value} : List.Forall₂ Value.Same vs ws → Value.Same (.array vs) (.array ws)
  | object {ms ns : List (String × Value)} :
      (∀ key, Option.Rel Value.Same (lookup? key ms) (lookup? key ns)) →
      Value.Same (.object ms) (.object ns)

theorem Number.Same.refl (n : Number) : n.Same n := by
  cases n with
  | natural n => exact .natural n
  | negative n => exact .negative n
  | decimal => exact .decimal rfl

theorem Number.Same.describe_eq {m n : Number} (h : m.Same n) : m.describe = n.describe := by
  cases h with
  | natural => rfl
  | negative => rfl
  | decimal h =>
    unfold Number.describe
    dsimp only
    rw [h]

theorem Value.Same.describe_found_eq {v w : Value} (h : v.Same w) :
    v.found.describe = w.found.describe := by
  cases h with
  | number h => exact h.describe_eq
  | _ => rfl

theorem sizeOf_lt_of_lookup? {key : String} {ms : List (String × Value)} {v : Value}
    (h : lookup? key ms = some v) : sizeOf v < sizeOf ms := by
  obtain ⟨pre, post, rfl, -⟩ := lookup?_eq_some_iff.mp h
  have hmem : (key, v) ∈ pre ++ (key, v) :: post := List.mem_append_right pre List.mem_cons_self
  have hlt := List.sizeOf_lt_of_mem hmem
  rw [Prod.mk.sizeOf_spec] at hlt
  omega

theorem Value.Same.refl : ∀ v : Value, v.Same v
  | .null => .null
  | .boolean b => .boolean b
  | .number n => .number (.refl n)
  | .string s => .string s
  | .array vs => .array (List.forall₂_same.mpr fun v _ => refl v)
  | .object ms => .object fun key =>
    match hfound : lookup? key ms with
    | none => .none
    | some v =>
      -- The value is not a subterm of the look-up, so its size is what the recursion goes by.
      have _hlt := sizeOf_lt_of_lookup? hfound
      .some (refl v)
termination_by v => sizeOf v
decreasing_by
  · have hlt := List.sizeOf_lt_of_mem ‹v ∈ vs›
    rw [Value.array.sizeOf_spec]
    omega
  · rw [Value.object.sizeOf_spec]
    omega

/-- An object is the same in another order of its members, if no key is repeated. -/
theorem Value.Same.of_perm {ms ns : List (String × Value)} (h : ms.Perm ns)
    (hnodup : (ms.map (·.1)).Nodup) : Value.Same (.object ms) (.object ns) := by
  refine .object fun key => ?_
  rw [lookup?_eq_of_perm h hnodup]
  cases lookup? key ns with
  | none => exact .none
  | some v => exact .some (.refl v)

end Json

open Json (Value Reason lookup?)

namespace Description

/-! ## Decoding alike -/

variable {α β : Type}

/-- The same outcome, where a failure is what it says. -/
inductive Alike : Except Reason α → Except Reason α → Prop where
  | ok (a : α) : Alike (.ok a) (.ok a)
  | error {e e' : Reason} : e.message = e'.message → Alike (.error e) (.error e')

namespace Alike

variable {x y : Except Reason α}

theorem refl : ∀ x : Except Reason α, Alike x x
  | .ok a => .ok a
  | .error _ => .error rfl

theorem bind {f g : α → Except Reason β} (h : Alike x y) (hsteps : ∀ a, Alike (f a) (g a)) :
    Alike (x >>= f) (y >>= g) := by
  cases h with
  | ok a => exact hsteps a
  | error h => exact .error h

theorem map (f : α → β) (h : Alike x y) : Alike (f <$> x) (f <$> y) := by
  cases h with
  | ok a => exact .ok (f a)
  | error h => exact .error h

theorem mapM {R : α → α → Prop} {f g : α → Except Reason β} {xs ys : List α}
    (hsteps : ∀ x y, R x y → Alike (f x) (g y)) (h : List.Forall₂ R xs ys) :
    Alike (xs.mapM f) (ys.mapM g) := by
  induction h with
  | nil => exact .ok []
  | cons hxy _ ih =>
    rw [List.mapM_cons, List.mapM_cons]
    exact (hsteps _ _ hxy).bind fun b => ih.bind fun bs => refl _

theorem eq_ok {a : α} (h : Alike x y) (hx : x = .ok a) : y = .ok a := by
  cases h with
  | ok b => exact hx
  | error => cases hx

theorem exists_eq_error {e : Reason} (h : Alike x y) (hx : x = .error e) :
    ∃ e', y = .error e' ∧ e'.message = e.message := by
  cases h with
  | ok => cases hx
  | error h =>
    cases hx
    exact ⟨_, rfl, h.symm⟩

end Alike

/-- The decoder does not tell apart what is the same. -/
def Respects (item : Decoder α) : Prop := ∀ v w, Value.Same v w → Alike (item v) (item w)

/-- A message shows no more of a value of the wrong sort than the same value has. -/
theorem alike_wrongType {v w : Value} (h : v.Same w) (wanted : String) (α : Type) :
    Alike (.error (.wrongType v.found wanted) : Except Reason α)
      (.error (.wrongType w.found wanted)) :=
  .error (congrArg (fun found => "invalid type: " ++ found ++ ", expected " ++ wanted)
    h.describe_found_eq)

theorem respects_string : Respects string := by
  intro v w h
  -- Stated before the cases, this serves for every sort of value that is no string.
  have hwrong := alike_wrongType h "a string" String
  cases h with
  | string s => exact .ok s
  | _ => exact hwrong

theorem respects_boolean : Respects boolean := by
  intro v w h
  have hwrong := alike_wrongType h "a boolean" Bool
  cases h with
  | boolean b => exact .ok b
  | _ => exact hwrong

variable {item : Decoder α}

theorem respects_list (hitem : Respects item) : Respects (list item) := by
  intro v w h
  have hwrong := alike_wrongType h "a sequence" (List α)
  cases h with
  | array h => exact Alike.mapM hitem h
  | _ => exact hwrong

theorem respects_optional (hitem : Respects item) : Respects (optional item) := by
  intro v w h
  have hsome := (hitem v w h).map some
  cases h with
  | null => exact .ok none
  | _ => exact hsome

/-! ## Parts -/

/-- What is looked up in two values is the same, or it is in neither. -/
theorem alike_found (hitem : Respects item) {x? y? : Option Value} :
    Option.Rel Value.Same x? y? →
      Alike (match x? with | none => .ok none | some v => some <$> item v)
        (match y? with | none => .ok none | some v => some <$> item v) := by
  intro h
  cases h with
  | none => exact .ok none
  | some hsame => exact (hitem _ _ hsame).map some

theorem alike_member? {ms ns : List (String × Value)}
    (h : ∀ key, Option.Rel Value.Same (lookup? key ms) (lookup? key ns)) (key : String)
    (hitem : Respects item) : Alike (member? ms key item) (member? ns key item) :=
  alike_found hitem (h key)

section Places

variable {vs ws : List Value}

theorem rel_getElem? {R : α → β → Prop} {xs : List α} {ys : List β} (h : List.Forall₂ R xs ys)
    (i : Nat) : Option.Rel R xs[i]? ys[i]? := by
  induction h generalizing i with
  | nil => exact .none
  | cons hxy _ ih =>
    cases i with
    | zero => exact .some hxy
    | succ i => exact ih i

theorem alike_part? (h : List.Forall₂ Value.Same vs ws) (i : Nat) (hitem : Respects item) :
    Alike (part? vs i item) (part? ws i item) :=
  alike_found hitem (rel_getElem? h i)

theorem alike_part (h : List.Forall₂ Value.Same vs ws) (wanted : String) (i : Nat)
    (hitem : Respects item) : Alike (part wanted vs i item) (part wanted ws i item) := by
  have hpart := rel_getElem? h i
  unfold part
  generalize vs[i]? = x? at hpart
  generalize ws[i]? = y? at hpart
  cases hpart with
  | none => exact .refl _
  | some hsame => exact hitem _ _ hsame

theorem noMore_eq (h : List.Forall₂ Value.Same vs ws) (known : Nat) :
    noMore vs known = noMore ws known := by
  rw [noMore, noMore, h.length_eq]

end Places

/-! ## Records -/

theorem respects_field : Respects field := by
  intro v w h
  have hwrong := alike_wrongType h "struct FieldDescription" FieldDescription
  cases h with
  | object hms =>
    -- The members in the order in which they are decoded; what is missing is noticed after that.
    refine (alike_member? hms "name" respects_string).bind fun name => ?_
    refine (alike_member? hms "nullable" respects_boolean).bind fun nullable => ?_
    refine (alike_member? hms "primary_key" respects_boolean).bind fun primaryKey => ?_
    exact (alike_member? hms "type" respects_string).bind fun type => .refl _
  | array hvs =>
    refine (alike_part hvs _ 0 respects_string).bind fun name => ?_
    refine (alike_part hvs _ 1 respects_string).bind fun type => ?_
    refine (alike_part? hvs 2 respects_boolean).bind fun nullable => ?_
    refine (alike_part? hvs 3 respects_boolean).bind fun primaryKey => ?_
    rw [noMore_eq hvs]
    exact .refl _
  | _ => exact hwrong

theorem respects_constraint : Respects constraint := by
  intro v w h
  have hwrong := alike_wrongType h "struct ConstraintDescription" Constraint
  have hnames := respects_list respects_string
  have hextras := respects_optional respects_string
  cases h with
  | object hms =>
    refine (alike_member? hms "extras" hextras).bind fun extras => ?_
    refine (alike_member? hms "fields" hnames).bind fun fields => ?_
    exact (alike_member? hms "type" respects_string).bind fun kind => .refl _
  | array hvs =>
    refine (alike_part hvs _ 0 respects_string).bind fun kind => ?_
    refine (alike_part hvs _ 1 hnames).bind fun fields => ?_
    refine (alike_part? hvs 2 hextras).bind fun extras => ?_
    rw [noMore_eq hvs]
    exact .refl _
  | _ => exact hwrong

/-- **A record is read alike from the same value**, whatever is wrong in it, however deep. -/
theorem respects_record : Respects record := by
  intro v w h
  have hwrong := alike_wrongType h "struct RecordDescription" RecordDescription
  have hfields := respects_list respects_field
  have hkey := respects_optional (respects_list respects_string)
  have hconstraints := respects_list respects_constraint
  cases h with
  | object hms =>
    refine (alike_member? hms "constraints" hconstraints).bind fun constraints => ?_
    refine (alike_member? hms "fields" hfields).bind fun fields => ?_
    refine (alike_member? hms "id_fields" hkey).bind fun key => ?_
    exact (alike_member? hms "name" respects_string).bind fun name => .refl _
  | array hvs =>
    refine (alike_part hvs _ 0 respects_string).bind fun name => ?_
    refine (alike_part hvs _ 1 hfields).bind fun fields => ?_
    refine (alike_part? hvs 2 hkey).bind fun key => ?_
    refine (alike_part? hvs 3 hconstraints).bind fun constraints => ?_
    rw [noMore_eq hvs]
    exact .refl _
  | _ => exact hwrong

/-! ## Texts -/

/-- The text holds the same value. -/
def HoldsSame (text : String) (v : Value) : Prop := ∃ w, Json.read text = .ok w ∧ w.Same v

/-- The value is no array. -/
def Single (v : Value) : Prop := ∀ vs, v ≠ .array vs

variable {source text : String} {v w : Value}

theorem Single.of_same (h : Single v) (hsame : w.Same v) : Single w := by
  rintro vs rfl
  cases hsame
  exact h _ rfl

theorem Single.records_eq (h : Single v) : records v = (fun r => [r]) <$> record v := by
  cases v with
  | array vs => exact absurd rfl (h vs)
  | _ => rfl

/-- A text with one value is decoded to one record, and the value as well. -/
theorem Single.record_of_parse_eq_ok (hv : Single v) (ht : HoldsSame text v)
    {rs : List RecordDescription} (h : parse source text = .ok rs) :
    ∃ r, record v = .ok r ∧ rs = [r] := by
  obtain ⟨w, hread, hsame⟩ := ht
  rw [parse_of_read hread, (hv.of_same hsame).records_eq, mapError_eq_ok_iff] at h
  obtain ⟨r, hr, rfl⟩ := map_eq_ok_iff.mp h
  exact ⟨r, (respects_record w v hsame).eq_ok hr, rfl⟩

/-- A text with one value is refused for what is wrong with the value. -/
theorem Single.record_of_parse_eq_error (hv : Single v) (ht : HoldsSame text v) {e : Error}
    (h : parse source text = .error e) :
    ∃ reason reason', e = .invalidDescription source ⟨reason, none⟩ ∧
      record v = .error reason' ∧ reason'.message = reason.message := by
  obtain ⟨w, hread, hsame⟩ := ht
  rw [parse_of_read hread, (hv.of_same hsame).records_eq] at h
  obtain ⟨reason, hreason, rfl⟩ := mapError_eq_error_iff.mp h
  obtain ⟨reason', hv, hmessage⟩ :=
    (respects_record w v hsame).exists_eq_error (map_eq_error_iff.mp hreason)
  exact ⟨reason, reason', rfl, hv, hmessage⟩

/-- The records of single texts are the records of their values. -/
theorem mapM_record_of_parse {ts : List String} {vs : List Value}
    {groups : List (List RecordDescription)} (hsingle : ∀ v ∈ vs, Single v)
    (hparts : List.Forall₂ HoldsSame ts vs)
    (hgroups : List.Forall₂ (fun t rs => parse source t = .ok rs) ts groups) :
    vs.mapM record = .ok groups.flatten := by
  induction hparts generalizing groups with
  | nil =>
    obtain rfl := List.forall₂_nil_left_iff.mp hgroups
    rfl
  | cons ht _ ih =>
    obtain ⟨rs, groups, hrs, hrest, rfl⟩ := List.forall₂_cons_left_iff.mp hgroups
    obtain ⟨hv, hvs⟩ := List.forall_mem_cons.mp hsingle
    obtain ⟨r, hr, rfl⟩ := hv.record_of_parse_eq_ok ht hrs
    rw [List.mapM_cons, hr, ih hvs hrest]
    rfl

/-- **One array of descriptions or many texts with one each.** If all of the texts are decoded, then
the array is decoded to all their records in order. Otherwise the array is refused with what the
first text that fails is refused with. -/
theorem parse_array_gathers (source : String) {text : String} {vs : List Value}
    {ts : List String} (hread : Json.read text = .ok (.array vs)) (hsingle : ∀ v ∈ vs, Single v)
    (hparts : List.Forall₂ HoldsSame ts vs) :
    (∀ groups, List.Forall₂ (fun t rs => parse source t = .ok rs) ts groups →
        parse source text = .ok groups.flatten) ∧
      ∀ pre t post e, ts = pre ++ t :: post → (∀ p ∈ pre, ∃ rs, parse source p = .ok rs) →
        parse source t = .error e →
          ∃ fault fault', e = .invalidDescription source fault ∧
            parse source text = .error (.invalidDescription source fault') ∧
            fault'.message = fault.message := by
  constructor
  · intro groups hgroups
    rw [parse_of_read hread, records, mapM_record_of_parse hsingle hparts hgroups]
    rfl
  · rintro pre t post e rfl hpre hfails
    obtain ⟨pre', v, post', rfl, hfront, ht⟩ := exists_split_of_forall₂ hparts
    have hv : Single v := hsingle v (List.mem_append_right pre' List.mem_cons_self)
    obtain ⟨reason, reason', rfl, hrecord, hmessage⟩ := hv.record_of_parse_eq_error ht hfails
    have hpre' : ∀ w ∈ pre', ∃ r, record w = .ok r := by
      intro w hw
      obtain ⟨p, hp, hholds⟩ := exists_mem_of_forall₂ hfront.flip hw
      obtain ⟨rs, hrs⟩ := hpre p hp
      have hw : Single w := hsingle w (List.mem_append_left _ hw)
      obtain ⟨r, hr, -⟩ := hw.record_of_parse_eq_ok hholds hrs
      exact ⟨r, hr⟩
    refine ⟨⟨reason, none⟩, ⟨reason', none⟩, rfl, ?_, hmessage⟩
    rw [parse_of_read hread, records, mapM_append_cons_eq_error hpre' hrecord]
    rfl

/-- The members of one object. -/
def twoMembers : List (String × Value) := [("name", .string "a"), ("fields", .array [])]

def twoMembersText : String := "[\x7b\"name\":\"a\",\"fields\":[]\x7d]"

def brokenText : String := "[\x7b\"name\":\"a\",\"fields\":[]\x7d,5,null]"

/-- One text with the members in another order, and two texts that hold no description. -/
theorem parse_array_with_integer :
    parse "all.json" twoMembersText = .ok [⟨"a", [], none, []⟩] ∧
      ∃ fault, parse "all.json" brokenText = .error (.invalidDescription "all.json" fault) ∧
        fault.message = "invalid type: integer `5`, expected struct RecordDescription" := by
  have hturned : HoldsSame "\x7b\"fields\":[],\"name\":\"a\"\x7d" (.object twoMembers) :=
    ⟨_, rfl, .of_perm (.swap _ _ []) (by decide)⟩
  have hparts : List.Forall₂ HoldsSame ["\x7b\"fields\":[],\"name\":\"a\"\x7d", "5", "null"]
      [.object twoMembers, .number (.natural 5), .null] :=
    .cons hturned (.cons ⟨_, rfl, .refl _⟩ (.cons ⟨_, rfl, .refl _⟩ .nil))
  have hgood : Json.read twoMembersText = .ok (.array [.object twoMembers]) := by rfl
  have hbroken : Json.read brokenText =
      .ok (.array [.object twoMembers, .number (.natural 5), .null]) := by rfl
  constructor
  · have hgathers := parse_array_gathers "all.json" hgood (by simp [Single]) (.cons hturned .nil)
    exact hgathers.1 [[⟨"a", [], none, []⟩]] (.cons rfl .nil)
  · have hgathers := parse_array_gathers "all.json" hbroken (by simp [Single]) hparts
    have hfails : parse "all.json" "5" = .error (.invalidDescription "all.json"
        ⟨.wrongType (.number (.natural 5)) "struct RecordDescription", none⟩) := by rfl
    obtain ⟨fault, fault', hfault, htext, hmessage⟩ :=
      hgathers.2 _ "5" ["null"] _ rfl (List.forall_mem_singleton.mpr ⟨_, rfl⟩) hfails
    cases hfault
    exact ⟨fault', htext, hmessage⟩

end Description

end TableScript
