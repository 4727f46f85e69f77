import TableScript.Json.Printer
import TableScript.Json.Reader
import TableScript.Proofs.Traversal

/-!
# Reading what is written

A string is read back from its quotes whatever it holds, as every escape is undone by the reader. An
object without blanks is a row of members with a comma in front of each but the first
(`membersText`), so it is read back a member at a time.

In general an item may have blanks in front of it (`rowText`). A row is read back if each of its
texts is (`ReadsAs`), and so is the array or the object in whose brackets it stands. Both layouts of
a value are rows all the way down, so both are read back if there are no numbers in the value
(`Plain`).

Results:
* `stringChars_stringChar`: a written character is read back, and `string_quotedTail`: so is a
  string.
* `nextMember_membersText_cons`, `colon_memberTail`: the next member of an object is found at its
  key, and what it holds behind the colon.
* `elements_rowText`, `members_rowText`: a row of items or of members is read back, by induction on
  the items with the text behind them arbitrary.
* `ReadsAs.array`, `ReadsAs.object`: so is the array or the object of them.
* `read_compact`, `read_pretty`: a value without numbers is what its text holds, in either layout,
  if it is not too deep to be read.

Out of scope: numbers, since a double may be written in many ways. No report and no configuration
holds one.
-/

namespace TableScript.Json

/-! ## Strings -/

/-- A further character in front of what was read. -/
def prepend (c : Char) (p : List Char × List Char) : List Char × List Char := (c :: p.1, p.2)

theorem stringChars_quote (rest : List Char) : stringChars ('"' :: rest) = .ok ([], rest) := by
  rw [stringChars]

/-- An escape of one letter is undone. -/
theorem stringChars_escape {e c : Char} (hletter : e ≠ 'u') (hescape : escaped? e = some c)
    (rest : List Char) : stringChars ('\\' :: e :: rest) = (stringChars rest).map (prepend c) := by
  rw [stringChars]
  · rw [hescape]
    cases stringChars rest <;> rfl
  · exact fun _ _ _ _ _ h _ => hletter h
  · exact fun h => hletter h

theorem hexUnit?_hexDigit : ∀ n < 0x20,
    hexUnit? '0' '0' (hexDigit (n / 16)) (hexDigit (n % 16)) = some n := by
  decide

/-- An escape by number is undone where the number is that of a control, so no surrogate. -/
theorem stringChars_control {c : Char} (hcontrol : c.toNat < 0x20) (rest : List Char) :
    stringChars ('\\' :: 'u' :: '0' :: '0' :: hexDigit (c.toNat / 16) :: hexDigit (c.toNat % 16) ::
      rest) = (stringChars rest).map (prepend c) := by
  have htrailing : isTrailing c.toNat = false := by
    simp only [isTrailing, Bool.and_eq_false_iff, decide_eq_false_iff_not]
    omega
  have hleading : isLeading c.toNat = false := by
    simp only [isLeading, Bool.and_eq_false_iff, decide_eq_false_iff_not]
    omega
  rw [stringChars, hexUnit?_hexDigit c.toNat hcontrol]
  simp only [htrailing, hleading, Bool.false_eq_true, if_false, Char.ofNat_toNat]
  cases stringChars rest <;> rfl

/-- A character that needs no escape stands for itself. -/
theorem stringChars_plain {c : Char} (hquote : c ≠ '"') (hbackslash : c ≠ '\\')
    (hcontrol : ¬ c.toNat < 0x20) (rest : List Char) :
    stringChars (c :: rest) = (stringChars rest).map (prepend c) := by
  rw [stringChars]
  · rw [if_neg hcontrol]
    cases stringChars rest <;> rfl
  all_goals simp [hquote, hbackslash]

/-- **A written character is read back**, whatever follows it. -/
theorem stringChars_stringChar (c : Char) (rest : List Char) :
    stringChars (stringChar c ++ rest) = (stringChars rest).map (prepend c) := by
  unfold stringChar
  split
  case h_8 _ hquote hbackslash _ _ _ _ _ =>
    split
    · next hcontrol => exact stringChars_control hcontrol rest
    · next hcontrol => exact stringChars_plain hquote hbackslash hcontrol rest
  all_goals exact stringChars_escape (by decide) rfl rest

/-- A string behind its opening quote. -/
def quotedTail (s : String) : List Char := s.toList.flatMap stringChar ++ ['"']

theorem stringChars_flatMap_stringChar (cs rest : List Char) :
    stringChars (cs.flatMap stringChar ++ '"' :: rest) = .ok (cs, rest) := by
  induction cs with
  | nil => exact stringChars_quote rest
  | cons c cs ih =>
    rw [List.flatMap_cons, List.append_assoc, stringChars_stringChar, ih]
    rfl

/-- **A string is read back from its quotes**, whatever it holds and whatever follows it. -/
@[simp] theorem string_quotedTail (s : String) (rest : List Char) :
    string (quotedTail s ++ rest) = .ok (s, rest) := by
  rw [string, quotedTail, List.append_assoc, List.singleton_append, stringChars_flatMap_stringChar]
  simp only [ok_bind, String.ofList_toList]

theorem skipBlanks_quoted (s : String) (rest : List Char) :
    skipBlanks (quoted s ++ rest) = '"' :: (quotedTail s ++ rest) := rfl

/-- A string is read as a value, however deep it stands. -/
@[simp] theorem value_quoted (depth : Nat) (s : String) (rest : List Char) :
    value depth (quoted s ++ rest) = .ok (.string s, rest) := by
  have hscalar : scalar ('"' :: (quotedTail s ++ rest)) = .ok (.string s, rest) := by
    rw [scalar, string_quotedTail, ok_bind]
  cases depth with
  | zero => exact hscalar
  | succ depth => exact hscalar

/-! ## Objects -/

/-- A member behind its key. -/
def memberTail (m : String × Value) : List Char := ':' :: compact m.2

/-- Members up to the bracket, with a comma in front of each but the first of all. -/
def membersText (first : Bool) : List (String × Value) → List Char
  | [] => []
  | m :: ms =>
    (if first then [] else [',']) ++ (quoted m.1 ++ (memberTail m ++ membersText false ms))

theorem compactMembers_eq : ∀ ms, compactMembers ms = membersText true ms
  | [] => rfl
  | [_] => by simp [compactMembers, membersText, memberTail]
  | _ :: n :: ms => by
    rw [compactMembers, compactMembers_eq (n :: ms)]
    simp [membersText, memberTail]

theorem compact_object (ms : List (String × Value)) (rest : List Char) :
    compact (.object ms) ++ rest = '\x7b' :: (membersText true ms ++ '\x7d' :: rest) := by
  rw [compact, compactMembers_eq]
  simp

/-- Every member takes a character, which bounds how many there are. -/
theorem length_le_length_membersText (first : Bool) (ms : List (String × Value)) :
    ms.length ≤ (membersText first ms).length := by
  induction ms generalizing first with
  | nil => exact Nat.zero_le _
  | cons m ms ih =>
    have hrest := ih false
    simp only [membersText, memberTail, List.length_append, List.length_cons]
    omega

@[simp] theorem nextMember_membersText_nil (first : Bool) (rest : List Char) :
    nextMember first (membersText first [] ++ '\x7d' :: rest) = .ok (.finished rest) := rfl

/-- The next member is found at its key. -/
@[simp] theorem nextMember_membersText_cons (first : Bool) (m : String × Value)
    (ms : List (String × Value)) (rest : List Char) :
    nextMember first (membersText first (m :: ms) ++ rest) =
      .ok (.item (quotedTail m.1 ++ (memberTail m ++ (membersText false ms ++ rest)))) := by
  rw [← List.append_assoc (memberTail m), ← List.append_assoc (quotedTail m.1)]
  cases first <;> rfl

@[simp] theorem colon_memberTail (m : String × Value) (rest : List Char) :
    colon (memberTail m ++ rest) = .ok ((), compact m.2 ++ rest) := rfl

theorem finish_nil {α : Type} (x : α) : finish x [] = .ok x := rfl

/-! ## Rows of items -/

/-- Nothing but blanks. -/
def Blanks (gap : List Char) : Prop := ∀ c ∈ gap, isBlank c = true

theorem Blanks.skipBlanks_append {gap : List Char} (h : Blanks gap) (cs : List Char) :
    skipBlanks (gap ++ cs) = skipBlanks cs :=
  List.dropWhile_append_of_pos h

theorem blanks_nil : Blanks [] := nofun

theorem skipBlanks_cons {c : Char} (h : isBlank c = false) (cs : List Char) :
    skipBlanks (c :: cs) = c :: cs := by
  rw [skipBlanks, List.dropWhile_cons, h, if_neg Bool.false_ne_true]

/-- The text is read as the value, whatever follows it. It starts neither with a blank nor like the
end of a list. -/
structure ReadsAs (depth : Nat) (text : List Char) (v : Value) : Prop where
  starts : ∃ c cs, text = c :: cs ∧ isBlank c = false ∧ c ≠ ']'
  value_append : ∀ rest, value depth (text ++ rest) = .ok (v, rest)

/-- The texts of items up to the bracket, with a comma in front of each but the first of all and a gap
in front of every one. -/
def rowText (gap : List Char) (first : Bool) : List (List Char) → List Char
  | [] => []
  | t :: ts => (if first then [] else [',']) ++ (gap ++ (t ++ rowText gap false ts))

/-- A member, with a gap in front of its value. -/
def memberText (gap : List Char) (text : Value → List Char) (m : String × Value) : List Char :=
  quoted m.1 ++ ':' :: (gap ++ text m.2)

/-- Every item takes a character, which bounds how many there are. -/
theorem length_le_length_rowText (gap : List Char) (first : Bool) {ts : List (List Char)}
    (h : ∀ t ∈ ts, t ≠ []) : ts.length ≤ (rowText gap first ts).length := by
  induction ts generalizing first with
  | nil => exact Nat.zero_le _
  | cons t ts ih =>
    have hpos := List.length_pos_of_ne_nil (h t List.mem_cons_self)
    have hrest := ih false fun u hu => h u (List.mem_cons_of_mem t hu)
    simp only [rowText, List.length_append, List.length_cons]
    omega

section Row

variable {gap last : List Char} {depth : Nat} {text : Value → List Char}

theorem value_append_of_blanks (h : Blanks gap) (cs : List Char) :
    value depth (gap ++ cs) = value depth cs := by
  cases depth with
  | zero => rw [value, value, h.skipBlanks_append]
  | succ depth => rw [value, value, h.skipBlanks_append]

theorem nextElement_end (h : Blanks last) (first : Bool) (rest : List Char) :
    nextElement first (last ++ ']' :: rest) = .ok (.finished rest) := by
  have hend : skipBlanks (last ++ ']' :: rest) = ']' :: rest := h.skipBlanks_append _
  simp only [nextElement, hend]

theorem nextMember_end (h : Blanks last) (first : Bool) (rest : List Char) :
    nextMember first (last ++ '\x7d' :: rest) = .ok (.finished rest) := by
  have hend : skipBlanks (last ++ '\x7d' :: rest) = '\x7d' :: rest := h.skipBlanks_append _
  simp only [nextMember, hend]

/-- The next item is found at its first character. -/
theorem nextElement_rowText_cons {t : List Char} {v : Value} (hgap : Blanks gap)
    (h : ReadsAs depth t v) (first : Bool) (ts : List (List Char)) (rest : List Char) :
    nextElement first (rowText gap first (t :: ts) ++ rest) =
      .ok (.item (t ++ (rowText gap false ts ++ rest))) := by
  obtain ⟨c, cs, rfl, hblank, hbracket⟩ := h.starts
  cases first with
  | true =>
    simp only [rowText, nextElement, if_true, List.nil_append, List.cons_append, List.append_assoc,
      hgap.skipBlanks_append, skipBlanks_cons hblank]
  | false =>
    have hcomma (more : List Char) : skipBlanks (',' :: more) = ',' :: more := rfl
    simp [rowText, nextElement, hcomma, hgap.skipBlanks_append, skipBlanks_cons hblank, hbracket]

/-- The next member is found at its key. -/
theorem nextMember_rowText_cons {pad : List Char} (hgap : Blanks gap) (m : String × Value)
    (first : Bool) (ts : List (List Char)) (rest : List Char) :
    nextMember first (rowText gap first (memberText pad text m :: ts) ++ rest) =
      .ok (.item (quotedTail m.1 ++ ':' :: (pad ++ (text m.2 ++ (rowText gap false ts ++ rest))))) := by
  have hquote (more : List Char) : skipBlanks (quoted m.1 ++ more) = '"' :: (quotedTail m.1 ++ more) :=
    rfl
  cases first with
  | true =>
    simp only [rowText, memberText, nextMember, if_true, List.nil_append, List.cons_append,
      List.append_assoc, hgap.skipBlanks_append, hquote]
    rfl
  | false =>
    have hcomma (more : List Char) : skipBlanks (',' :: more) = ',' :: more := rfl
    simp [rowText, memberText, nextMember, hcomma, hgap.skipBlanks_append, hquote]

/-- Items that are read back each are read back in a row. -/
theorem elements_rowText {vs : List Value} (hgap : Blanks gap) (hlast : Blanks last)
    (h : ∀ v ∈ vs, ReadsAs depth (text v) v) (fuel : Nat) (first : Bool) (rest : List Char) :
    elements (value depth) (vs.length + 1 + fuel) first
        (rowText gap first (vs.map text) ++ (last ++ ']' :: rest)) = .ok (vs, rest) := by
  induction vs generalizing first with
  | nil =>
    rw [List.length_nil, Nat.zero_add, Nat.add_comm, elements, List.map_nil, rowText,
      List.nil_append, nextElement_end hlast, ok_bind]
  | cons v vs ih =>
    have hrest := ih (fun w hw => h w (List.mem_cons_of_mem v hw)) false
    have hfuel : (v :: vs).length + 1 + fuel = vs.length + 1 + fuel + 1 := by
      rw [List.length_cons]
      omega
    have hv := h v List.mem_cons_self
    rw [hfuel, elements, List.map_cons, nextElement_rowText_cons hgap hv, ok_bind]
    simp only [hv.value_append, ok_bind, hrest]

/-- So are members. -/
theorem members_rowText {pad : List Char} {ms : List (String × Value)} (hgap : Blanks gap)
    (hpad : Blanks pad) (hlast : Blanks last) (h : ∀ m ∈ ms, ReadsAs depth (text m.2) m.2)
    (fuel : Nat) (first : Bool) (rest : List Char) :
    members (value depth) (ms.length + 1 + fuel) first
        (rowText gap first (ms.map (memberText pad text)) ++ (last ++ '\x7d' :: rest)) =
      .ok (ms, rest) := by
  induction ms generalizing first with
  | nil =>
    rw [List.length_nil, Nat.zero_add, Nat.add_comm, members, List.map_nil, rowText,
      List.nil_append, nextMember_end hlast, ok_bind]
  | cons m ms ih =>
    have hrest := ih (fun n hn => h n (List.mem_cons_of_mem m hn)) false
    have hfuel : (m :: ms).length + 1 + fuel = ms.length + 1 + fuel + 1 := by
      rw [List.length_cons]
      omega
    have hcolon (more : List Char) : colon (':' :: more) = .ok ((), more) := rfl
    rw [hfuel, members, List.map_cons, nextMember_rowText_cons hgap, ok_bind]
    simp only [string_quotedTail, ok_bind, hcolon, value_append_of_blanks hpad,
      (h m List.mem_cons_self).value_append, hrest]

/-- The length of the text is fuel enough for what takes at least a character each. -/
theorem exists_fuel {count : Nat} {text : List Char} (h : count ≤ text.length) (more : List Char) :
    ∃ fuel, (text ++ more).length + 1 = count + 1 + fuel := by
  refine ⟨text.length - count + more.length, ?_⟩
  rw [List.length_append]
  omega

/-- **A row of texts in brackets is read as an array**, if each text is read as its item. -/
theorem ReadsAs.array {vs : List Value} (hgap : Blanks gap) (hlast : Blanks last)
    (h : ∀ v ∈ vs, ReadsAs depth (text v) v) :
    ReadsAs (depth + 1) ('[' :: (rowText gap true (vs.map text) ++ (last ++ [']']))) (.array vs) where
  starts := ⟨'[', _, rfl, by decide, by decide⟩
  value_append rest := by
    have hne : ∀ t ∈ vs.map text, t ≠ [] := by
      rw [List.forall_mem_map]
      intro v hv hnil
      obtain ⟨c, cs, hstart, -⟩ := (h v hv).starts
      rw [hnil] at hstart
      cases hstart
    have hlength := length_le_length_rowText gap true hne
    rw [List.length_map] at hlength
    obtain ⟨fuel, hfuel⟩ := exists_fuel hlength (last ++ ']' :: rest)
    have hskip (more : List Char) : skipBlanks ('[' :: more) = '[' :: more := rfl
    simp only [List.cons_append, List.append_assoc, List.nil_append, value, hskip, hfuel,
      elements_rowText hgap hlast h, ok_bind]

/-- **A row of members in braces is read as an object**, if each text is read as its value. -/
theorem ReadsAs.object {pad : List Char} {ms : List (String × Value)} (hgap : Blanks gap)
    (hpad : Blanks pad) (hlast : Blanks last) (h : ∀ m ∈ ms, ReadsAs depth (text m.2) m.2) :
    ReadsAs (depth + 1)
      ('\x7b' :: (rowText gap true (ms.map (memberText pad text)) ++ (last ++ ['\x7d'])))
      (.object ms) where
  starts := ⟨'\x7b', _, rfl, by decide, by decide⟩
  value_append rest := by
    have hne : ∀ t ∈ ms.map (memberText pad text), t ≠ [] := by
      rw [List.forall_mem_map]
      exact fun m _ => nofun
    have hlength := length_le_length_rowText gap true hne
    rw [List.length_map] at hlength
    obtain ⟨fuel, hfuel⟩ := exists_fuel hlength (last ++ '\x7d' :: rest)
    have hskip (more : List Char) : skipBlanks ('\x7b' :: more) = '\x7b' :: more := rfl
    simp only [List.cons_append, List.append_assoc, List.nil_append, value, hskip, hfuel,
      members_rowText hgap hpad hlast h, ok_bind]

end Row

/-! ## Values without numbers -/

/-- There are no numbers in the value, and at most `depth` lists and objects enclose one another. -/
inductive Plain : Nat → Value → Prop where
  | null {depth : Nat} : Plain depth .null
  | boolean {depth : Nat} (b : Bool) : Plain depth (.boolean b)
  | string {depth : Nat} (s : String) : Plain depth (.string s)
  | array {depth : Nat} {vs : List Value} : (∀ v ∈ vs, Plain depth v) →
      Plain (depth + 1) (.array vs)
  | object {depth : Nat} {ms : List (String × Value)} : (∀ m ∈ ms, Plain depth m.2) →
      Plain (depth + 1) (.object ms)

theorem Plain.object_nil {depth : Nat} : Plain (depth + 1) (.object []) :=
  .object fun _ h => absurd h List.not_mem_nil

/-- An object has no numbers in it if the first member has none and the others have none. -/
theorem Plain.object_cons {depth : Nat} {key : String} {v : Value} {ms : List (String × Value)}
    (hv : Plain depth v) (h : Plain (depth + 1) (.object ms)) :
    Plain (depth + 1) (.object ((key, v) :: ms)) := by
  cases h with
  | object hms => exact .object (List.forall_mem_cons.mpr ⟨hv, hms⟩)

theorem readsAs_null (depth : Nat) : ReadsAs depth "null".toList .null where
  starts := ⟨'n', _, rfl, by decide, by decide⟩
  value_append rest := by cases depth <;> rfl

theorem readsAs_boolean (depth : Nat) (b : Bool) :
    ReadsAs depth (if b then "true" else "false").toList (.boolean b) where
  starts := by cases b <;> exact ⟨_, _, rfl, by decide, by decide⟩
  value_append rest := by cases depth <;> cases b <;> rfl

theorem readsAs_quoted (depth : Nat) (s : String) : ReadsAs depth (quoted s) (.string s) where
  starts := ⟨'"', _, rfl, by decide, by decide⟩
  value_append rest := value_quoted depth s rest

/-- A text that is read as a value holds this value. -/
theorem ReadsAs.read_eq {text : List Char} {v : Value} (h : ReadsAs depthLimit text v) :
    read (String.ofList text) = .ok v := by
  have hvalue := h.value_append []
  rw [List.append_nil] at hvalue
  rw [read, String.toList_ofList, hvalue, ok_bind]
  rfl

/-! ### Without blanks -/

theorem compactItems_eq : ∀ vs, compactItems vs = rowText [] true (vs.map compact)
  | [] => rfl
  | [_] => by simp [compactItems, rowText]
  | _ :: w :: vs => by
    rw [compactItems, compactItems_eq (w :: vs)]
    simp [rowText]

theorem membersText_eq (first : Bool) (ms : List (String × Value)) :
    membersText first ms = rowText [] first (ms.map (memberText [] compact)) := by
  induction ms generalizing first with
  | nil => rfl
  | cons m ms ih =>
    rw [membersText, ih, List.map_cons, rowText, memberText, memberTail]
    simp

theorem Plain.readsAs_compact {depth : Nat} {v : Value} (h : Plain depth v) :
    ReadsAs depth (compact v) v := by
  induction h with
  | null => exact readsAs_null _
  | boolean b => exact readsAs_boolean _ b
  | string s => exact readsAs_quoted _ s
  | @array depth vs _ ih =>
    rw [compact, compactItems_eq]
    exact .array blanks_nil blanks_nil ih
  | @object depth ms _ ih =>
    rw [compact, compactMembers_eq, membersText_eq]
    exact .object blanks_nil blanks_nil blanks_nil ih

/-- **A value without numbers is what its text holds**, if it is not too deep to be read. -/
theorem read_compact {v : Value} (h : Plain depthLimit v) :
    read (String.ofList (compact v)) = .ok v :=
  h.readsAs_compact.read_eq

/-! ### A line for every item -/

theorem blanks_newline (level : Nat) : Blanks (newline level) := by
  intro c hc
  rcases List.mem_cons.mp hc with rfl | hc
  · decide
  · rw [(List.mem_replicate.mp hc).2]
    decide

/-- The items of an array are a row with a line break in front of each. -/
theorem newline_append_prettyItems (level : Nat) (v : Value) (vs : List Value) :
    newline level ++ prettyItems level (v :: vs) =
      rowText (newline level) true ((v :: vs).map (pretty level)) := by
  induction vs generalizing v with
  | nil => simp [prettyItems, rowText]
  | cons w vs ih =>
    have hrest := ih w
    simp only [List.map_cons, rowText, if_true, List.nil_append] at hrest
    simp [prettyItems, rowText, hrest]

/-- So are the members of an object. -/
theorem newline_append_prettyMembers (level : Nat) (m : String × Value)
    (ms : List (String × Value)) :
    newline level ++ prettyMembers level (m :: ms) =
      rowText (newline level) true ((m :: ms).map (memberText [' '] (pretty level))) := by
  induction ms generalizing m with
  | nil => simp [prettyMembers, rowText, memberText]
  | cons n ms ih =>
    have hrest := ih n
    simp only [List.map_cons, rowText, if_true, List.nil_append] at hrest
    simp [prettyMembers, rowText, memberText, hrest]

theorem readsAs_empty_array (depth : Nat) : ReadsAs (depth + 1) ['[', ']'] (.array []) :=
  Plain.readsAs_compact (.array fun _ h => absurd h List.not_mem_nil)

theorem readsAs_empty_object (depth : Nat) : ReadsAs (depth + 1) ['\x7b', '\x7d'] (.object []) :=
  Plain.object_nil.readsAs_compact

theorem Plain.readsAs_pretty {depth : Nat} {v : Value} (h : Plain depth v) (level : Nat) :
    ReadsAs depth (pretty level v) v := by
  induction h generalizing level with
  | null => exact readsAs_null _
  | boolean b => exact readsAs_boolean _ b
  | string s => exact readsAs_quoted _ s
  | @array depth vs _ ih =>
    cases vs with
    | nil => exact readsAs_empty_array depth
    | cons v vs =>
      have hitems := ReadsAs.array (blanks_newline (level + 1)) (blanks_newline level)
        fun w hw => ih w hw (level + 1)
      rw [← newline_append_prettyItems] at hitems
      simpa [pretty] using hitems
  | @object depth ms _ ih =>
    cases ms with
    | nil => exact readsAs_empty_object depth
    | cons m ms =>
      have hblank : Blanks [' '] := List.forall_mem_singleton.mpr rfl
      have hmembers := ReadsAs.object (blanks_newline (level + 1)) hblank (blanks_newline level)
        fun n hn => ih n hn (level + 1)
      rw [← newline_append_prettyMembers] at hmembers
      simpa [pretty] using hmembers

/-- **So it is with a line for every item.** -/
theorem read_pretty {v : Value} (h : Plain depthLimit v) :
    read (String.ofList (pretty 0 v)) = .ok v :=
  (h.readsAs_pretty 0).read_eq

end TableScript.Json
