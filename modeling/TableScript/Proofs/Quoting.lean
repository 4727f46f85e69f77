import TableScript.Dialect
import TableScript.Proofs.Words

/-!
# Names come back out of their quotes

Inside quotes the quote character stands twice, so the first one that stands alone ends the name.
Nothing is asked of the names.

Results:
* `doubled_append_inj`: where a name in quotes ends, by induction on the name.
* `quoted_append_inj`: a quoted name and what follows it can be read in one way only, unless that
  begins with the quote character.
* `quotedList_append_inj`: so can a list of names and what `EndsNames`, unless the names are
  separated by the quote character itself.
* `Flavor.quoted_names_told_apart`: both for dialects with any quote character.
-/

namespace TableScript

open Text

namespace Identifier

variable {q : Char}

theorem doubled_cons_quote (cs : List Char) : doubled q (q :: cs) = q :: q :: doubled q cs := by
  simp [doubled]

theorem doubled_cons_of_ne {c : Char} (h : c ≠ q) (cs : List Char) :
    doubled q (c :: cs) = c :: doubled q cs := by
  simp [doubled, h]

theorem toList_quoted (name : String) :
    (quoted q name).toList = q :: (doubled q name.toList ++ [q]) := by
  rw [quoted, String.toList_ofList, List.cons_append]

/-- Where a name goes on, its first character ends no name. -/
theorem quote_cons_ne_doubled_cons {c : Char} {cs r s : List Char} (hr : r.head? ≠ some q) :
    q :: r ≠ doubled q (c :: cs) ++ q :: s := by
  by_cases hc : c = q
  · subst hc
    rw [doubled_cons_quote]
    intro h
    exact hr (congrArg List.head? (List.cons.inj h).2)
  · rw [doubled_cons_of_ne hc]
    intro h
    exact hc (List.cons.inj h).1.symm

/-- **A quoted name ends at the first quote character that stands alone.** -/
theorem doubled_append_inj : ∀ {xs ys r s : List Char}, r.head? ≠ some q → s.head? ≠ some q →
    doubled q xs ++ q :: r = doubled q ys ++ q :: s → xs = ys ∧ r = s
  | [], [], _, _, _, _, h => ⟨rfl, (List.cons.inj h).2⟩
  | [], _ :: _, _, _, hr, _, h => absurd h (quote_cons_ne_doubled_cons hr)
  | _ :: _, [], _, _, _, hs, h => absurd h.symm (quote_cons_ne_doubled_cons hs)
  | x :: xs, y :: ys, r, s, hr, hs, h => by
    have hxy : x = y := by
      by_cases hx : x = q <;> by_cases hy : y = q
      · rw [hx, hy]
      · rw [hx, doubled_cons_quote, doubled_cons_of_ne hy] at h
        exact hx.trans (List.cons.inj h).1
      · rw [hy, doubled_cons_quote, doubled_cons_of_ne hx] at h
        exact (List.cons.inj h).1.trans hy.symm
      · rw [doubled_cons_of_ne hx, doubled_cons_of_ne hy] at h
        exact (List.cons.inj h).1
    subst hxy
    have hrest : doubled q xs ++ q :: r = doubled q ys ++ q :: s := by
      by_cases hx : x = q
      · subst hx
        rw [doubled_cons_quote, doubled_cons_quote] at h
        exact (List.cons.inj (List.cons.inj h).2).2
      · rw [doubled_cons_of_ne hx, doubled_cons_of_ne hx] at h
        exact (List.cons.inj h).2
    obtain ⟨rfl, hend⟩ := doubled_append_inj hr hs hrest
    exact ⟨rfl, hend⟩

/-- **A quoted name is read in one way only**, in front of any text that does not begin with the
quote character. -/
theorem quoted_append_inj {x y : String} {r s : List Char} (hr : r.head? ≠ some q)
    (hs : s.head? ≠ some q) (h : (quoted q x).toList ++ r = (quoted q y).toList ++ s) :
    x = y ∧ r = s := by
  simp only [toList_quoted, List.cons_append, List.append_assoc, List.nil_append] at h
  obtain ⟨hname, hend⟩ := doubled_append_inj hr hs (List.cons.inj h).2
  exact ⟨String.toList_inj.mp hname, hend⟩

/-! ## Lists of names -/

/-- One more name in a list: what stands between the names, and the name. -/
def furtherName (q : Char) (name : String) : List Char := ", ".toList ++ (quoted q name).toList

theorem toList_quotedList_nil : (quotedList q []).toList = [] := rfl

theorem toList_quotedList_cons (name : String) (names : List String) :
    (quotedList q (name :: names)).toList =
      (quoted q name).toList ++ names.flatMap (furtherName q) := by
  rw [quotedList, List.map_cons, toList_intercalate_cons, List.flatMap_map]
  rfl

theorem readable_furtherName (hq : q ≠ ',') :
    Readable (furtherName q) id (fun r => r.head? ≠ some q) where
  follows_word x r := by
    show some ',' ≠ some q
    exact fun h => hq (Option.some.inj h).symm
  view_eq {x y r s} hr hs h := by
    simp only [furtherName, List.append_assoc] at h
    exact quoted_append_inj hr hs (List.append_cancel_left h)

/-- What ends a list of names: it begins neither with the quote character nor with a comma. -/
structure EndsNames (q : Char) (r : List Char) : Prop where
  not_quote : r.head? ≠ some q
  not_comma : r.head? ≠ some ','

theorem EndsNames.endsRow {r : List Char} (h : EndsNames q r) :
    EndsRow (furtherName q) (fun r => r.head? ≠ some q) r where
  follows := h.not_quote
  no_word x t := by
    rintro rfl
    exact h.not_comma rfl

/-- **A list of names is read in one way only**, names that contain quote characters, commas and
blanks included, and so is where it ends. -/
theorem quotedList_append_inj (hq : q ≠ ',') : ∀ {xs ys : List String} {r s : List Char},
    EndsNames q r → EndsNames q s →
      (quotedList q xs).toList ++ r = (quotedList q ys).toList ++ s → xs = ys ∧ r = s
  | [], [], _, _, _, _, h => ⟨rfl, h⟩
  | [], y :: ys, r, s, hr, _, h => by
    rw [toList_quotedList_nil, toList_quotedList_cons, toList_quoted, List.nil_append] at h
    exact absurd (congrArg List.head? h) hr.not_quote
  | x :: xs, [], r, s, _, hs, h => by
    rw [toList_quotedList_nil, toList_quotedList_cons, toList_quoted, List.nil_append] at h
    exact absurd (congrArg List.head? h.symm) hs.not_quote
  | x :: xs, y :: ys, r, s, hr, hs, h => by
    have hread := readable_furtherName hq
    rw [toList_quotedList_cons, toList_quotedList_cons, List.append_assoc, List.append_assoc] at h
    obtain ⟨rfl, hrest⟩ := quoted_append_inj (hread.follows_flatMap hr.not_quote xs)
      (hread.follows_flatMap hs.not_quote ys) h
    obtain ⟨hnames, hend⟩ := hread.flatMap_inj hr.endsRow hs.endsRow hrest
    rw [List.map_id, List.map_id] at hnames
    exact ⟨by rw [hnames], hend⟩

theorem endsNames_nil : EndsNames q [] where
  not_quote := nofun
  not_comma := nofun

end Identifier

/-! ## Names in the quotes of a dialect -/

namespace Flavor

open Identifier

/-- **No name leaves its quotes.** In front of any texts that do not begin with the quote character,
the same quoted text comes from the same name; and unless the quote character is the comma, which
separates names, the same text of a list comes from the same list. -/
theorem quoted_names_told_apart (f : Flavor) :
    (∀ x y r s : String, r.toList.head? ≠ some f.quote → s.toList.head? ≠ some f.quote →
        f.quoteName x ++ r = f.quoteName y ++ s → x = y ∧ r = s) ∧
      (f.quote ≠ ',' → ∀ xs ys : List String, f.quoteNames xs = f.quoteNames ys → xs = ys) := by
  constructor
  · intro x y r s hr hs h
    have htexts : (quoted f.quote x).toList ++ r.toList = (quoted f.quote y).toList ++ s.toList := by
      rw [← String.toList_append, ← String.toList_append]
      exact congrArg String.toList h
    obtain ⟨hname, hrest⟩ := quoted_append_inj hr hs htexts
    exact ⟨hname, String.toList_inj.mp hrest⟩
  · intro hquote xs ys h
    have htexts : (quotedList f.quote xs).toList ++ [] = (quotedList f.quote ys).toList ++ [] := by
      rw [List.append_nil, List.append_nil]
      exact congrArg String.toList h
    exact (quotedList_append_inj hquote endsNames_nil endsNames_nil htexts).1

/-- A dialect that quotes with blanks, which also stand in front of every name but the first. -/
def blankQuoted : Flavor := { name := "blank", types := [], quote := ' ' }

/-- One name that looks like two is told apart from the two, and a name that ends in a quote
character from the name without it. -/
theorem imitations_told_apart :
    blankQuoted.quoteNames ["a ,  b"] ≠ blankQuoted.quoteNames ["a", "b"] ∧
      blankQuoted.quoteName "a " ++ "," ≠ blankQuoted.quoteName "a" ++ "," := by
  obtain ⟨hname, hlist⟩ := quoted_names_told_apart blankQuoted
  have hquote : blankQuoted.quote ≠ ',' := by decide
  constructor
  · intro h
    exact absurd (hlist hquote _ _ h) (by decide)
  · intro h
    have hcomma : ",".toList.head? ≠ some blankQuoted.quote := by decide
    exact absurd (hname _ _ _ _ hcomma hcomma h).1 (by decide)

end Flavor

end TableScript
