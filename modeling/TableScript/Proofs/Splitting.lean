import TableScript.Proofs.Words
import TableScript.Script

/-!
# Splitting a script

A script is split at the semicolons outside quotes, read from left to right, where every quote
character opens or closes (`split`). `Closed` texts end outside quotes and have semicolons inside
only.

Results:
* `Closed.append_iff_left`, `Closed.append_iff_right`: a closed text in front or behind makes no
  difference to a text.
* `scan_eq_some_false_iff`, `closed_iff_scan`: the closed texts are those that a reader outside
  quotes passes as a whole, so being closed is decidable.
* `pieces_append_semicolon`: what is split at the semicolon behind a text, if the text is closed,
  and `closed_of_pieces_eq_cons`: only if it is.
* `pieces_rows_iff`: the rows behind the first statement, by induction on the statements.
* `split_scriptText_iff`: a script splits into its statements, with nothing left, exactly when they
  are all closed.
-/

namespace TableScript.Script

open Text

/-! ## The split -/

/-- The pieces between the semicolons outside quotes. The flag says whether the text begins inside
quotes. -/
def pieces (quote : Char) : Bool → List Char → List (List Char)
  | _, [] => [[]]
  | inside, c :: cs =>
    if c = ';' ∧ inside = false then [] :: pieces quote false cs
    else (pieces quote (if c = quote then !inside else inside) cs).modifyHead (c :: ·)

/-- What follows a semicolon, without the newline there. -/
def dropNewline : List Char → List Char
  | '\n' :: cs => cs
  | cs => cs

/-- The pieces of a script, the one behind the last semicolon included. -/
def split (quote : Char) (script : String) : List String :=
  match pieces quote false script.toList with
  | [] => []
  | first :: rest => (first :: rest.map dropNewline).map String.ofList

/-! ## Texts that close their quotes -/

/-- The text has an even number of quote characters, and an odd number in front of every
semicolon. -/
structure Closed (quote : Char) (cs : List Char) : Prop where
  even_count : cs.count quote % 2 = 0
  odd_before : ∀ before after, cs = before ++ ';' :: after → before.count quote % 2 = 1

section Closed

variable {q : Char} {xs ys cs : List Char}

theorem closed_of_plain (h : ∀ c ∈ cs, c ≠ ';' ∧ c ≠ q) : Closed q cs where
  even_count := by
    rw [List.count_eq_zero.mpr fun hq => (h q hq).2 rfl]
  odd_before before after hsplit := by
    have hmem : ';' ∈ cs := by
      rw [hsplit]
      exact List.mem_append_right before List.mem_cons_self
    exact absurd rfl (h ';' hmem).1

theorem Closed.append (hx : Closed q xs) (hy : Closed q ys) : Closed q (xs ++ ys) where
  even_count := by
    have hxs := hx.even_count
    have hys := hy.even_count
    rw [List.count_append]
    omega
  odd_before before after hsplit := by
    rcases List.append_eq_append_iff.mp hsplit with ⟨rest, rfl, hrest⟩ | ⟨rest, hrest, hcons⟩
    · have hxs := hx.even_count
      have hys := hy.odd_before rest after hrest
      rw [List.count_append]
      omega
    · cases rest with
      | nil =>
        have hxs := hx.even_count
        have hys := hy.odd_before [] after hcons.symm
        rw [List.append_nil] at hrest
        rw [List.count_nil] at hys
        omega
      | cons c rest =>
        obtain ⟨rfl, -⟩ := List.cons.inj hcons
        exact hx.odd_before before rest hrest

/-- A closed text behind makes no difference. -/
theorem Closed.append_iff_left (hy : Closed q ys) : Closed q (xs ++ ys) ↔ Closed q xs := by
  refine ⟨fun h => ⟨?_, fun before after hsplit => ?_⟩, fun h => h.append hy⟩
  · have hboth := h.even_count
    have hys := hy.even_count
    rw [List.count_append] at hboth
    omega
  · refine h.odd_before before (after ++ ys) ?_
    rw [hsplit, List.append_assoc, List.cons_append]

/-- A closed text in front makes no difference. -/
theorem Closed.append_iff_right (hx : Closed q xs) : Closed q (xs ++ ys) ↔ Closed q ys := by
  have hxs := hx.even_count
  refine ⟨fun h => ⟨?_, fun before after hsplit => ?_⟩, fun h => hx.append h⟩
  · have hboth := h.even_count
    rw [List.count_append] at hboth
    omega
  · have hboth := h.odd_before (xs ++ before) after (by rw [hsplit, List.append_assoc])
    rw [List.count_append] at hboth
    omega

theorem closed_flatMap {α : Type} {f : α → List Char} : ∀ {as : List α},
    (∀ a ∈ as, Closed q (f a)) → Closed q (as.flatMap f)
  | [], _ => closed_of_plain nofun
  | a :: as, h => by
    rw [List.flatMap_cons]
    exact (h a List.mem_cons_self).append
      (closed_flatMap fun x hx => h x (List.mem_cons_of_mem a hx))

/-! ### Reading a text -/

/-- Whether a reader ends inside quotes, if no semicolon outside stops it. -/
def scan (quote : Char) : Bool → List Char → Option Bool
  | inside, [] => some inside
  | inside, c :: cs =>
    if c = ';' ∧ inside = false then none
    else scan quote (if c = quote then !inside else inside) cs

/-- To open or close quotes is to count one more quote character. -/
theorem toNat_flip (c : Char) (inside : Bool) (n : Nat) :
    (n + (if c = q then !inside else inside).toNat) % 2 =
      (n + (if c = q then 1 else 0) + inside.toNat) % 2 := by
  by_cases hc : c = q
  · rw [if_pos hc, if_pos hc]
    cases inside with
    | false => rfl
    | true =>
      show n % 2 = (n + 1 + 1) % 2
      omega
  · rw [if_neg hc, if_neg hc]
    rfl

/-- A reader that begins inside has one more quote character behind it. -/
theorem scan_eq_some_false_iff : ∀ {cs : List Char} {inside : Bool},
    scan q inside cs = some false ↔
      (cs.count q + inside.toNat) % 2 = 0 ∧
        ∀ before after, cs = before ++ ';' :: after → (before.count q + inside.toNat) % 2 = 1
  | [], inside => by
    cases inside <;> simp [scan]
  | c :: cs, inside => by
    by_cases hstop : c = ';' ∧ inside = false
    · obtain ⟨rfl, rfl⟩ := hstop
      constructor
      · intro h
        rw [scan, if_pos ⟨rfl, rfl⟩] at h
        cases h
      · rintro ⟨-, h⟩
        have hfirst := h [] cs rfl
        cases hfirst
    · have hflip := toNat_flip (q := q) c inside
      have hcount : ∀ ds : List Char, (c :: ds).count q = ds.count q + if c = q then 1 else 0 := by
        intro ds
        rw [List.count_cons]
        simp only [beq_iff_eq]
      rw [scan, if_neg hstop, scan_eq_some_false_iff, hflip, hcount]
      refine and_congr_right fun _ =>
        ⟨fun h before after hsplit => ?_, fun h before after hsplit => ?_⟩
      · cases before with
        | nil =>
          obtain ⟨rfl, -⟩ := List.cons.inj hsplit
          cases inside with
          | false => exact absurd ⟨rfl, rfl⟩ hstop
          | true => rfl
        | cons b before =>
          obtain ⟨rfl, hrest⟩ := List.cons.inj hsplit
          rw [hcount, ← hflip]
          exact h before after hrest
      · have hcons := h (c :: before) after (by rw [hsplit, List.cons_append])
        rwa [hcount, ← hflip] at hcons

theorem closed_iff_scan : Closed q cs ↔ scan q false cs = some false := by
  rw [scan_eq_some_false_iff]
  exact ⟨fun h => ⟨h.even_count, h.odd_before⟩, fun h => ⟨h.1, h.2⟩⟩

instance : Decidable (Closed q cs) := decidable_of_iff _ closed_iff_scan.symm

theorem scan_append : ∀ {xs : List Char} {inside : Bool} (ys : List Char),
    scan q inside (xs ++ ys) = (scan q inside xs).bind fun inside => scan q inside ys
  | [], _, _ => rfl
  | c :: xs, inside, ys => by
    rw [List.cons_append, scan, scan]
    by_cases hstop : c = ';' ∧ inside = false
    · rw [if_pos hstop, if_pos hstop]
      rfl
    · rw [if_neg hstop, if_neg hstop, scan_append]

end Closed

/-! ## Where the split cuts -/

section Cuts

variable {q : Char}

/-- A text that is read without a stop stays in one piece. -/
theorem pieces_append : ∀ {xs : List Char} {inside after : Bool} (rest : List Char),
    scan q inside xs = some after →
      pieces q inside (xs ++ rest) = (pieces q after rest).modifyHead (xs ++ ·)
  | [], inside, after, rest, h => by
    obtain rfl := Option.some.inj h
    cases h : pieces q inside rest <;> simp [h]
  | c :: xs, inside, after, rest, h => by
    rw [scan] at h
    by_cases hstop : c = ';' ∧ inside = false
    · rw [if_pos hstop] at h
      cases h
    · rw [if_neg hstop] at h
      rw [List.cons_append, pieces, if_neg hstop, pieces_append rest h, List.modifyHead_modifyHead]
      rfl

/-- A first piece that ends where its text does was read without a stop. -/
theorem scan_of_head?_pieces : ∀ {xs : List Char} {inside : Bool} {rest : List Char},
    (pieces q inside (xs ++ ';' :: rest)).head? = some xs → scan q inside xs = some false
  | [], inside, rest, h => by
    cases inside with
    | false => rfl
    | true =>
      rw [List.nil_append, pieces, if_neg (by simp)] at h
      cases hrest : pieces q (if ';' = q then !true else true) rest <;> rw [hrest] at h <;> cases h
  | c :: xs, inside, rest, h => by
    rw [List.cons_append, pieces] at h
    by_cases hstop : c = ';' ∧ inside = false
    · rw [if_pos hstop] at h
      cases h
    · rw [if_neg hstop, List.head?_modifyHead, Option.map_eq_some_iff] at h
      obtain ⟨first, hfirst, hcons⟩ := h
      obtain ⟨-, rfl⟩ := List.cons.inj hcons
      rw [scan, if_neg hstop]
      exact scan_of_head?_pieces hfirst

/-- A statement is the first piece of what it begins exactly if it is closed, and then the split
goes on behind its semicolon. -/
theorem pieces_append_semicolon {xs rest : List Char} (h : Closed q xs) :
    pieces q false (xs ++ ';' :: rest) = xs :: pieces q false rest := by
  rw [pieces_append (';' :: rest) (closed_iff_scan.mp h), pieces, if_pos ⟨rfl, rfl⟩]
  rw [List.modifyHead_cons, List.append_nil]

theorem closed_of_pieces_eq_cons {xs rest : List Char} {more : List (List Char)}
    (h : pieces q false (xs ++ ';' :: rest) = xs :: more) : Closed q xs :=
  closed_iff_scan.mpr (scan_of_head?_pieces (congrArg List.head? h))

end Cuts

/-! ## Scripts -/

/-- A further statement of a script, on a line of its own. -/
def row (statement : String) : List Char := '\n' :: (statement.toList ++ [';'])

theorem toList_scriptText_cons (statement : String) (rest : List String) :
    (scriptText (statement :: rest)).toList = statement.toList ++ ';' :: rest.flatMap row := by
  rw [scriptText, List.map_cons, toList_intercalate_cons, List.flatMap_map, String.toList_append,
    List.append_assoc]
  simp only [String.toList_append]
  rfl

section Scripts

variable {q : Char}

theorem closed_newline_cons_iff (hq : q ≠ '\n') {cs : List Char} :
    Closed q ('\n' :: cs) ↔ Closed q cs := by
  have hnewline : Closed q ['\n'] := closed_of_plain fun c hc => by
    obtain rfl := List.mem_singleton.mp hc
    exact ⟨by decide, hq.symm⟩
  exact hnewline.append_iff_right

theorem closed_of_map_dropNewline {cs rest : List Char} {more : List (List Char)}
    (h : (pieces q false ('\n' :: cs ++ ';' :: rest)).map dropNewline = cs :: more) :
    Closed q ('\n' :: cs) := by
  have hpieces := pieces.eq_2 q false '\n' (cs ++ ';' :: rest)
  rw [if_neg (by decide)] at hpieces
  rw [List.cons_append, hpieces] at h
  cases hrest : pieces q (if '\n' = q then !false else false) (cs ++ ';' :: rest) with
  | nil =>
    rw [hrest] at h
    cases h
  | cons first others =>
    rw [hrest] at h hpieces
    obtain ⟨rfl, -⟩ := List.cons.inj h
    exact closed_of_pieces_eq_cons hpieces

/-- Behind the first statement, every piece begins with the newline that is dropped. -/
theorem pieces_rows_iff (hq : q ≠ '\n') : ∀ statements : List String,
    (pieces q false (statements.flatMap row)).map dropNewline =
        statements.map String.toList ++ [[]] ↔
      ∀ s ∈ statements, Closed q s.toList
  | [] => by simp [pieces, dropNewline]
  | s :: rest => by
    have hrow : (s :: rest).flatMap row = ('\n' :: s.toList) ++ ';' :: rest.flatMap row := by
      rw [List.flatMap_cons, row, List.cons_append, List.append_assoc]
      rfl
    rw [hrow, List.forall_mem_cons, ← pieces_rows_iff hq rest]
    constructor
    · intro h
      have hs := closed_of_map_dropNewline h
      rw [pieces_append_semicolon hs] at h
      exact ⟨(closed_newline_cons_iff hq).mp hs, (List.cons.inj h).2⟩
    · rintro ⟨hs, hrest⟩
      rw [pieces_append_semicolon ((closed_newline_cons_iff hq).mpr hs), List.map_cons, hrest]
      rfl

theorem map_ofList_eq_iff {texts : List (List Char)} {strings : List String} :
    texts.map String.ofList = strings ↔ texts = strings.map String.toList := by
  constructor
  · rintro rfl
    simp [Function.comp_def]
  · rintro rfl
    simp [Function.comp_def]

/-- **A script splits into its statements, with nothing left, exactly if every one closes its
quotes.** -/
theorem split_scriptText_iff (hq : q ≠ '\n') : ∀ statements : List String,
    split q (scriptText statements) = statements ++ [""] ↔ ∀ s ∈ statements, Closed q s.toList
  | [] => by simp [split, scriptText, pieces]
  | s :: rest => by
    have htexts : (s :: rest ++ [""]).map String.toList =
        s.toList :: (rest.map String.toList ++ [[]]) := by
      rw [List.cons_append, List.map_cons, List.map_append]
      rfl
    rw [List.forall_mem_cons, ← pieces_rows_iff hq rest, split, toList_scriptText_cons]
    constructor
    · intro h
      cases hpieces : pieces q false (s.toList ++ ';' :: rest.flatMap row) with
      | nil =>
        rw [hpieces] at h
        cases h
      | cons first more =>
        rw [hpieces] at h
        obtain ⟨rfl, hmore⟩ := List.cons.inj ((map_ofList_eq_iff.mp h).trans htexts)
        have hs := closed_of_pieces_eq_cons hpieces
        rw [pieces_append_semicolon hs] at hpieces
        obtain ⟨-, rfl⟩ := List.cons.inj hpieces
        exact ⟨hs, hmore⟩
    · rintro ⟨hs, hrest⟩
      rw [pieces_append_semicolon hs]
      exact map_ofList_eq_iff.mpr (by rw [htexts, hrest])

example : split '"' "a\";\"b;\nc;" = ["a\";\"b", "c", ""] := by decide

end Scripts

end TableScript.Script
