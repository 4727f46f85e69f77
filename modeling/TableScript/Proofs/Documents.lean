import Mathlib.Data.Nat.Digits.Defs
import TableScript.Proofs.Words
import TableScript.Toon

/-!
# Documents are read in one way only

A text in a document ends where it `Stops`: in quotes at the closing quote, since every quote inside
is escaped, and bare at the first special character, since it holds none. So a row of texts is read
in one way only, and with it an entry, once it is known whether that is a text, a list or a table
and of which columns (`Outline`). Where a table ends is told by the blanks in front of its rows,
which no key begins with, so the numbers in the headers are not needed.

Results:
* `textOf_append_inj`: a text is read in one way only, bare or in quotes, and so is where it stops.
* `rowOf_append_inj`: so is a row of texts, and where its line ends.
* `entryText_append_inj`: so is an entry of known outline, and where it ends.
* `documentText_key_inj`: so is the first key of a document, before anything of its entry is known.
* `encode_inj`: a document with plain keys and known outlines is read in one way only.
-/

namespace TableScript.Toon

open Text

/-! ## Texts -/

/-- Behind a text stands nothing, or a special character. -/
def Stops (r : List Char) : Prop := ∀ c ∈ r.head?, isSpecial c = true

theorem stops_cons {c : Char} (h : isSpecial c = true) (r : List Char) : Stops (c :: r) := by
  intro d hd
  obtain rfl := Option.some.inj hd
  exact h

/-- A text that stands bare has characters, and no special ones. -/
theorem plain_of_bare {cs : List Char} (h : needsQuotes cs = false) :
    cs ≠ [] ∧ ∀ c ∈ cs, isSpecial c = false := by
  simp only [needsQuotes, Bool.or_eq_false_iff, List.isEmpty_eq_false_iff,
    List.any_eq_false, Bool.not_eq_true] at h
  exact ⟨h.1.1.1.1.1.1.1, h.1.2⟩

/-- A bare text ends at the first special character. -/
theorem bare_append_inj {xs ys r s : List Char} (hxs : ∀ c ∈ xs, isSpecial c = false)
    (hys : ∀ c ∈ ys, isSpecial c = false) (hr : Stops r) (hs : Stops s) (h : xs ++ r = ys ++ s) :
    xs = ys ∧ r = s := by
  have htake : ∀ {cs t : List Char}, (∀ c ∈ cs, isSpecial c = false) → Stops t →
      (cs ++ t).takeWhile (fun c => !isSpecial c) = cs := by
    intro cs t hcs ht
    rw [List.takeWhile_append_of_pos fun c hc => by rw [hcs c hc]; rfl]
    cases t with
    | nil => rw [List.takeWhile_nil, List.append_nil]
    | cons c t => rw [List.takeWhile_cons, ht c rfl]; exact List.append_nil cs
  have hsame : xs = ys := by rw [← htake hxs hr, ← htake hys hs, h]
  subst hsame
  exact ⟨rfl, List.append_cancel_left h⟩

/-- The character that is written as a backslash and this one. -/
def unescaped : Char → Char
  | 'n' => '\n'
  | 'r' => '\r'
  | 't' => '\t'
  | c => c

/-- The next character in quotes, with the text behind it. -/
def nextQuoted : List Char → Option (Char × List Char)
  | '\\' :: c :: r => some (unescaped c, r)
  | c :: r => some (c, r)
  | [] => none

/-- Every character is read back from quotes. -/
theorem nextQuoted_quotedChar (c : Char) (r : List Char) :
    nextQuoted (quotedChar c ++ r) = some (c, r) := by
  unfold quotedChar
  split
  case h_6 _ hbackslash _ _ _ _ =>
    rw [List.singleton_append, nextQuoted]
    exact fun _ _ h _ => hbackslash h
  all_goals rfl

theorem readable_quotedChar : Readable quotedChar id (fun _ => True) where
  follows_word _ _ := trivial
  view_eq {x y r s} _ _ h := by
    have hnext := congrArg nextQuoted h
    rw [nextQuoted_quotedChar, nextQuoted_quotedChar] at hnext
    exact Prod.mk.inj (Option.some.inj hnext)

theorem head?_quotedChar_append (c : Char) (r : List Char) :
    (quotedChar c ++ r).head? ≠ some '"' := by
  unfold quotedChar
  split
  case h_6 _ _ hquote _ _ _ => exact fun h => hquote (Option.some.inj h)
  all_goals exact nofun

/-- A quoted text ends at the first quote that is not escaped. -/
theorem quoted_append_inj {xs ys r s : List Char} (h : quoted xs ++ r = quoted ys ++ s) :
    xs = ys ∧ r = s := by
  have hends (t : List Char) : EndsRow quotedChar (fun _ => True) ('"' :: t) :=
    ⟨trivial, fun c u hu => head?_quotedChar_append c u (hu ▸ rfl)⟩
  simp only [quoted, List.cons_append, List.append_assoc, List.nil_append] at h
  obtain ⟨hchars, hrest⟩ :=
    readable_quotedChar.flatMap_inj (hends r) (hends s) (List.cons.inj h).2
  rw [List.map_id, List.map_id] at hchars
  exact ⟨hchars, (List.cons.inj hrest).2⟩

/-- No bare text begins like a quoted one. -/
theorem quoted_append_ne_bare {xs ys r s : List Char} (h : needsQuotes ys = false) :
    quoted xs ++ r ≠ ys ++ s := by
  obtain ⟨hne, hplain⟩ := plain_of_bare h
  cases ys with
  | nil => exact absurd rfl hne
  | cons y ys =>
    intro heq
    have hy : '"' = y := (List.cons.inj heq).1
    have hspecial := hplain y List.mem_cons_self
    rw [← hy] at hspecial
    exact absurd hspecial (by decide)

/-- **A text is read in one way only**, bare or in quotes, and so is where it stops. -/
theorem textOf_append_inj {x y : String} {r s : List Char} (hr : Stops r) (hs : Stops s)
    (h : textOf x ++ r = textOf y ++ s) : x = y ∧ r = s := by
  have htexts : x.toList = y.toList ∧ r = s := by
    unfold textOf at h
    cases hx : needsQuotes x.toList <;> cases hy : needsQuotes y.toList <;>
      simp only [hx, hy, Bool.false_eq_true, if_true, if_false] at h
    · exact bare_append_inj (plain_of_bare hx).2 (plain_of_bare hy).2 hr hs h
    · exact absurd h.symm (quoted_append_ne_bare hx)
    · exact absurd h (quoted_append_ne_bare hy)
    · exact quoted_append_inj h
  exact htexts.imp_left String.toList_inj.mp

/-! ## Rows -/

/-- One more text in a row, with the comma in front of it. -/
def furtherText (s : String) : List Char := ',' :: textOf s

theorem rowOf_cons (x : String) (xs : List String) :
    rowOf (x :: xs) = textOf x ++ xs.flatMap furtherText := by
  rw [rowOf, List.map_cons, intercalate_cons, List.flatMap_map]
  rfl

theorem readable_furtherText : Readable furtherText id Stops where
  follows_word _ _ := stops_cons (by decide) _
  view_eq hr hs h := textOf_append_inj hr hs (List.cons.inj h).2

/-- Behind a line stands nothing, or a line break. -/
def EndsLine (r : List Char) : Prop := ∀ c ∈ r.head?, c = '\n'

theorem EndsLine.stops {r : List Char} (h : EndsLine r) : Stops r := by
  intro c hc
  rw [h c hc]
  decide

theorem EndsLine.endsRow {r : List Char} (h : EndsLine r) : EndsRow furtherText Stops r where
  follows := h.stops
  no_word x t := by
    rintro rfl
    exact absurd (h ',' rfl) (by decide)

/-- A text has a first character, which is no line break. -/
theorem exists_textOf_eq_cons (x : String) : ∃ c cs, textOf x = c :: cs ∧ c ≠ '\n' := by
  unfold textOf
  cases hx : needsQuotes x.toList with
  | true => exact ⟨'"', _, rfl, by decide⟩
  | false =>
    obtain ⟨hne, hplain⟩ := plain_of_bare hx
    obtain ⟨c, cs, hcs⟩ := List.exists_cons_of_ne_nil hne
    refine ⟨c, cs, by rw [if_neg Bool.false_ne_true, hcs], ?_⟩
    rintro rfl
    exact absurd (hplain '\n' (hcs ▸ List.mem_cons_self)) (by decide)

theorem rowOf_cons_append_not_endsLine (x : String) (xs : List String) (r : List Char) :
    ¬ EndsLine (rowOf (x :: xs) ++ r) := by
  obtain ⟨c, cs, htext, hbreak⟩ := exists_textOf_eq_cons x
  rw [rowOf_cons, htext]
  exact fun h => hbreak (h c rfl)

/-- **A row of texts is read in one way only**, and so is where its line ends. -/
theorem rowOf_append_inj : ∀ {xs ys : List String} {r s : List Char}, EndsLine r → EndsLine s →
    rowOf xs ++ r = rowOf ys ++ s → xs = ys ∧ r = s
  | [], [], _, _, _, _, h => ⟨rfl, h⟩
  | [], y :: ys, r, s, hr, _, h => by
    have hr : EndsLine (rowOf [] ++ r) := hr
    exact absurd (h ▸ hr) (rowOf_cons_append_not_endsLine y ys s)
  | x :: xs, [], r, s, _, hs, h => by
    have hs : EndsLine (rowOf [] ++ s) := hs
    exact absurd (h ▸ hs) (rowOf_cons_append_not_endsLine x xs r)
  | x :: xs, y :: ys, r, s, hr, hs, h => by
    have hread := readable_furtherText
    rw [rowOf_cons, rowOf_cons, List.append_assoc, List.append_assoc] at h
    obtain ⟨rfl, hrest⟩ :=
      textOf_append_inj (hread.follows_flatMap hr.stops xs) (hread.follows_flatMap hs.stops ys) h
    obtain ⟨htexts, hend⟩ := hread.flatMap_inj hr.endsRow hs.endsRow hrest
    rw [List.map_id, List.map_id] at htexts
    exact ⟨by rw [htexts], hend⟩

/-! ## Entries -/

/-- What is known of an entry before its texts are read. -/
inductive Outline where
  | text
  | list
  | table (columns : List String)
  deriving DecidableEq

def Entry.outline : Entry → Outline
  | .text _ => .text
  | .list _ => .list
  | .table columns _ => .table columns

/-- The lines of an entry, with a line break in front of each. -/
def entryText (key : String) (e : Entry) : List Char := (linesOf key e).flatMap ('\n' :: ·)

/-- A row of a table, with the line break and the blanks in front of it. -/
def rowLine (row : List String) : List Char := '\n' :: ' ' :: ' ' :: rowOf row

/-- Behind an entry stands nothing, or a line that no blank begins. -/
inductive EndsEntry : List Char → Prop where
  | nil : EndsEntry []
  | line {c : Char} (r : List Char) : c ≠ ' ' → EndsEntry ('\n' :: c :: r)

theorem EndsEntry.endsLine {r : List Char} (h : EndsEntry r) : EndsLine r := by
  cases h with
  | nil => exact nofun
  | line r => exact fun c hc => (Option.some.inj hc).symm

theorem readable_rowLine : Readable rowLine id EndsLine where
  follows_word _ _ := fun _ hc => (Option.some.inj hc).symm
  view_eq hr hs h :=
    rowOf_append_inj hr hs (List.cons.inj (List.cons.inj (List.cons.inj h).2).2).2

theorem EndsEntry.endsRow {r : List Char} (h : EndsEntry r) : EndsRow rowLine EndsLine r where
  follows := h.endsLine
  no_word row t := by
    cases h with
    | nil => exact nofun
    | line r hc => exact fun heq => hc (List.cons.inj (List.cons.inj heq).2).1.symm

/-- The number in a header ends at its bracket. -/
theorem countOf_append_inj {m n : Nat} {r s : List Char} (h : countOf m ++ r = countOf n ++ s) :
    r = s := by
  have hbracket (k : Nat) : ']' ∉ Nat.toDigits 10 k := fun hmem =>
    absurd (Nat.isDigit_of_mem_toDigits (by decide) (by decide) hmem) (by decide)
  simp only [countOf, List.cons_append, List.append_assoc, List.nil_append] at h
  exact (append_cons_inj (hbracket m) (hbracket n) (List.cons.inj h).2).2

/-- What stands behind the key and the number of a list. -/
def itemsTail : List String → List Char
  | [] => [':']
  | x :: xs => ':' :: ' ' :: rowOf (x :: xs)

/-- What stands behind the key and the number of a table. -/
def rowsTail (columns : List String) : List (List String) → List Char
  | [] => [':']
  | row :: rows => '\x7b' :: ([','].intercalate (columns.map String.toList) ++
      '\x7d' :: ':' :: (row :: rows).flatMap rowLine)

theorem entryText_text (key s : String) (r : List Char) :
    entryText key (.text s) ++ r = '\n' :: (key.toList ++ ':' :: ' ' :: (textOf s ++ r)) := by
  simp [entryText, linesOf]

theorem entryText_list (key : String) (items : List String) (r : List Char) :
    entryText key (.list items) ++ r =
      '\n' :: (key.toList ++ (countOf items.length ++ (itemsTail items ++ r))) := by
  cases items <;> simp [entryText, linesOf, itemsTail]

theorem entryText_table (key : String) (columns : List String) (rows : List (List String))
    (r : List Char) :
    entryText key (.table columns rows) ++ r =
      '\n' :: (key.toList ++ (countOf rows.length ++ (rowsTail columns rows ++ r))) := by
  cases rows with
  | nil => simp [entryText, linesOf, rowsTail]
  | cons row rows =>
    simp [entryText, linesOf, rowsTail, rowLine, List.flatMap_map]
    rfl

theorem itemsTail_append_inj {xs ys : List String} {r s : List Char} (hr : EndsLine r)
    (hs : EndsLine s) (h : itemsTail xs ++ r = itemsTail ys ++ s) : xs = ys ∧ r = s := by
  -- Behind the colon stands the line break or, where there are items, a blank.
  have hblank {t u : List Char} (ht : EndsLine t) : t ≠ ' ' :: u := by
    rintro rfl
    exact absurd (ht ' ' rfl) (by decide)
  cases xs with
  | nil =>
    cases ys with
    | nil => exact ⟨rfl, (List.cons.inj h).2⟩
    | cons y ys => exact absurd (List.cons.inj h).2 (hblank hr)
  | cons x xs =>
    cases ys with
    | nil => exact absurd (List.cons.inj h).2.symm (hblank hs)
    | cons y ys => exact rowOf_append_inj hr hs (List.cons.inj (List.cons.inj h).2).2

theorem rowsTail_append_inj {columns : List String} {xs ys : List (List String)} {r s : List Char}
    (hr : EndsEntry r) (hs : EndsEntry s)
    (h : rowsTail columns xs ++ r = rowsTail columns ys ++ s) : xs = ys ∧ r = s := by
  cases xs with
  | nil =>
    cases ys with
    | nil => exact ⟨rfl, (List.cons.inj h).2⟩
    | cons y ys => exact absurd (List.cons.inj h).1 (by decide)
  | cons x xs =>
    cases ys with
    | nil => exact absurd (List.cons.inj h).1 (by decide)
    | cons y ys =>
      simp only [rowsTail, List.cons_append, List.append_assoc] at h
      have hrows := List.append_cancel_left (List.cons.inj h).2
      obtain ⟨hsame, hrest⟩ := readable_rowLine.flatMap_inj hr.endsRow hs.endsRow
        (List.cons.inj (List.cons.inj hrows).2).2
      rw [List.map_id, List.map_id] at hsame
      exact ⟨hsame, hrest⟩

/-- **An entry of known outline is read in one way only**, and so is where it ends. -/
theorem entryText_append_inj {key : String} {x y : Entry} {r s : List Char}
    (houtline : x.outline = y.outline) (hr : EndsEntry r) (hs : EndsEntry s)
    (h : entryText key x ++ r = entryText key y ++ s) : x = y ∧ r = s := by
  cases x with
  | text a =>
    cases y with
    | text b =>
      rw [entryText_text, entryText_text] at h
      have htexts := List.append_cancel_left (List.cons.inj h).2
      obtain ⟨rfl, hrest⟩ := textOf_append_inj hr.endsLine.stops hs.endsLine.stops
        (List.cons.inj (List.cons.inj htexts).2).2
      exact ⟨rfl, hrest⟩
    | list => cases houtline
    | table => cases houtline
  | list xs =>
    cases y with
    | text => cases houtline
    | list ys =>
      rw [entryText_list, entryText_list] at h
      have hitems := countOf_append_inj (List.append_cancel_left (List.cons.inj h).2)
      obtain ⟨rfl, hrest⟩ := itemsTail_append_inj hr.endsLine hs.endsLine hitems
      exact ⟨rfl, hrest⟩
    | table => cases houtline
  | table columns xs =>
    cases y with
    | text => cases houtline
    | list => cases houtline
    | table columns' ys =>
      obtain rfl : columns = columns' := Outline.table.inj houtline
      rw [entryText_table, entryText_table] at h
      have hrows := countOf_append_inj (List.append_cancel_left (List.cons.inj h).2)
      obtain ⟨rfl, hrest⟩ := rowsTail_append_inj hr hs hrows
      exact ⟨rfl, hrest⟩

/-! ## Documents -/

/-- The key has characters, which are neither blanks nor special. -/
def isPlainKey (key : String) : Bool :=
  !key.toList.isEmpty && key.toList.all fun c => c != ' ' && !isSpecial c

theorem isPlainKey_iff {key : String} :
    isPlainKey key = true ↔ key.toList ≠ [] ∧ ∀ c ∈ key.toList, c ≠ ' ' ∧ isSpecial c = false := by
  simp [isPlainKey]

/-- The keys and the outlines of a document. -/
def outlines (d : Document) : List (String × Outline) := d.map fun e => (e.1, e.2.outline)

/-- The entries of a document, with a line break in front of each. -/
def documentText (d : Document) : List Char := d.flatMap fun e => entryText e.1 e.2

/-- A key stands at the front of its entry and stops there. -/
theorem exists_entryText_append_eq (key : String) (e : Entry) (r : List Char) :
    ∃ t, Stops t ∧ entryText key e ++ r = '\n' :: (key.toList ++ t) := by
  cases e with
  | text s => exact ⟨_, stops_cons (by decide) _, entryText_text key s r⟩
  | list items => exact ⟨_, stops_cons (by decide) _, entryText_list key items r⟩
  | table columns rows => exact ⟨_, stops_cons (by decide) _, entryText_table key columns rows r⟩

theorem linesOf_ne_nil (key : String) (e : Entry) : linesOf key e ≠ [] := by
  cases e with
  | text s => exact List.cons_ne_nil _ _
  | list items => cases items <;> exact List.cons_ne_nil _ _
  | table columns rows => cases rows <;> exact List.cons_ne_nil _ _

/-- The text of a document, but for the line break in front of its first entry. -/
theorem newline_cons_encode (e : String × Entry) (d : Document) :
    '\n' :: encode (e :: d) = documentText (e :: d) := by
  obtain ⟨line, lines, hlines⟩ := List.exists_cons_of_ne_nil (linesOf_ne_nil e.1 e.2)
  rw [encode, documentText, List.flatMap_cons, List.flatMap_cons, hlines, List.cons_append,
    intercalate_cons, entryText, hlines]
  simp [List.flatMap_append, List.flatMap_assoc, entryText]

/-- A document with plain keys may stand behind an entry. -/
theorem endsEntry_documentText {d : Document} (h : ∀ o ∈ outlines d, isPlainKey o.1 = true) :
    EndsEntry (documentText d) := by
  cases d with
  | nil => exact .nil
  | cons e d =>
    obtain ⟨t, -, ht⟩ := exists_entryText_append_eq e.1 e.2 (documentText d)
    obtain ⟨hne, hplain⟩ := isPlainKey_iff.mp (h _ List.mem_cons_self)
    obtain ⟨c, cs, hkey⟩ := List.exists_cons_of_ne_nil hne
    have htext : documentText (e :: d) = '\n' :: c :: (cs ++ t) := by
      rw [documentText, List.flatMap_cons]
      rw [hkey] at ht
      exact ht
    rw [htext]
    exact .line _ (hplain c (hkey ▸ List.mem_cons_self)).1

/-- The first key is read in one way only. -/
theorem documentText_key_inj {key key' : String} {x y : Entry} {d d' : Document}
    (hkey : isPlainKey key = true) (hkey' : isPlainKey key' = true)
    (h : documentText ((key, x) :: d) = documentText ((key', y) :: d')) : key = key' := by
  obtain ⟨t, ht, hx⟩ := exists_entryText_append_eq key x (documentText d)
  obtain ⟨u, hu, hy⟩ := exists_entryText_append_eq key' y (documentText d')
  have hkeys : '\n' :: (key.toList ++ t) = '\n' :: (key'.toList ++ u) := hx.symm.trans (h.trans hy)
  exact String.toList_inj.mp (bare_append_inj (fun c hc => ((isPlainKey_iff.mp hkey).2 c hc).2)
    (fun c hc => ((isPlainKey_iff.mp hkey').2 c hc).2) ht hu (List.cons.inj hkeys).2).1

/-- The first entry is read in one way only, and so is where the next one begins. -/
theorem documentText_cons_inj {key : String} {x y : Entry} {d d' : Document}
    (houtline : x.outline = y.outline) (hd : ∀ o ∈ outlines d, isPlainKey o.1 = true)
    (hd' : ∀ o ∈ outlines d', isPlainKey o.1 = true)
    (h : documentText ((key, x) :: d) = documentText ((key, y) :: d')) :
    x = y ∧ documentText d = documentText d' :=
  entryText_append_inj houtline (endsEntry_documentText hd) (endsEntry_documentText hd') h

theorem documentText_inj : ∀ {d d' : Document}, outlines d = outlines d' →
    (∀ o ∈ outlines d, isPlainKey o.1 = true) → documentText d = documentText d' → d = d'
  | [], [], _, _, _ => rfl
  | [], _ :: _, h, _, _ => by cases h
  | _ :: _, [], h, _, _ => by cases h
  | (key, x) :: d, (key', y) :: d', houtlines, hkeys, h => by
    obtain ⟨hfirst, hothers⟩ : _ ∧ outlines d = outlines d' := List.cons.inj houtlines
    obtain ⟨rfl, houtline⟩ := Prod.mk.inj hfirst
    have hd : ∀ o ∈ outlines d, isPlainKey o.1 = true := fun o ho => hkeys o (List.mem_cons_of_mem _ ho)
    obtain ⟨rfl, hrest⟩ := documentText_cons_inj houtline hd (hothers ▸ hd) h
    rw [documentText_inj hothers hd hrest]

/-- The text of a document tells what stands in its lines. -/
theorem documentText_eq_of_encode_eq {d d' : Document} (hd : d ≠ []) (hd' : d' ≠ [])
    (h : encode d = encode d') : documentText d = documentText d' := by
  obtain ⟨e, d, rfl⟩ := List.exists_cons_of_ne_nil hd
  obtain ⟨e', d', rfl⟩ := List.exists_cons_of_ne_nil hd'
  rw [← newline_cons_encode, ← newline_cons_encode, h]

/-- **A document of known outline is read in one way only**, if its keys are plain. -/
theorem encode_inj {d d' : Document} (houtlines : outlines d = outlines d')
    (hkeys : ∀ o ∈ outlines d, isPlainKey o.1 = true) (h : encode d = encode d') : d = d' := by
  by_cases hd : d = []
  · subst hd
    exact (List.map_eq_nil_iff.mp houtlines.symm).symm
  · have hd' : d' ≠ [] := by
      rintro rfl
      exact hd (List.map_eq_nil_iff.mp houtlines)
    exact documentText_inj houtlines hkeys (documentText_eq_of_encode_eq hd hd' h)

end TableScript.Toon
