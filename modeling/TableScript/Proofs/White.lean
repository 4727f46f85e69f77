import Mathlib.Data.List.DropRight
import TableScript.Text.Uppercase
import TableScript.Text.White

/-!
# White space at the ends of a text

Trimming stops at the first character that is not white, so of several texts in a row it reaches
only the outer ones, unless these are blank. Upper case changes no white space and makes none, so it
does not matter which of the two is done first.

A character that no entry of the tables leads to (`isUnreached`) is in an upper-case text only where
it was before. This holds of white space as of the characters that a script is split at, and the
tables are gone through once for both.

Results:
* `eq_of_mem_upperChar`: upper case makes no character that no entry leads to.
* `upperChar_of_white`, `isWhite_of_mem_upperChar`: upper case keeps white space and makes none.
* `trimStart_upper`: so trimming and upper case may be exchanged.
* `trimStart_append_of_white`, `trimStart_append_of_visible`: a row of two texts is trimmed within
  the second if the first is blank, and else within the first; `trimEnd_append_of_white` and
  `trimEnd_append_of_visible` say so of the other end.
-/

namespace TableScript.Text

/-! ## Characters that upper case does not lead to -/

/-- No entry of the tables leads to the character. The null character is left out, since it stands
for the numbers that are no characters. -/
def isUnreached (m : Char) : Bool :=
  m != '\x00' && upperExpansions.all (fun entry => entry.2.all fun code => Char.ofNat code != m) &&
    upperRuns.all fun run =>
      decide (m.toNat < run.target) || decide (run.target + (run.last - run.first) < m.toNat)

/-- A number has the character that is not null only if it is its number. -/
theorem toNat_ofNat_of_ne_null {n : Nat} (h : Char.ofNat n ≠ '\x00') : (Char.ofNat n).toNat = n := by
  by_cases hn : n.isValidChar
  · rw [Char.ofNat, dif_pos hn]
    rfl
  · rw [Char.ofNat, dif_neg hn] at h
    exact absurd rfl h

theorem mem_upperExpansions_of_lookup {n : Nat} {codes : List Nat}
    (h : upperExpansions.lookup n = some codes) : (n, codes) ∈ upperExpansions := by
  obtain ⟨pre, post, htable, -⟩ := List.lookup_eq_some_iff.mp h
  rw [htable]
  exact List.mem_append_right pre List.mem_cons_self

/-- **Upper case makes no such character**: it is the upper case of itself at most. -/
theorem eq_of_mem_upperChar {c m : Char} (hm : isUnreached m = true) (h : m ∈ upperChar c) :
    m = c := by
  simp only [isUnreached, Bool.and_eq_true, bne_iff_ne, List.all_eq_true, Bool.or_eq_true,
    decide_eq_true_eq] at hm
  obtain ⟨⟨hnull, hexpansion⟩, hrun⟩ := hm
  unfold upperChar at h
  cases hlookup : upperExpansions.lookup c.toNat with
  | some codes =>
    simp only [hlookup] at h
    obtain ⟨code, hcode, hchar⟩ := List.mem_map.mp h
    exact absurd hchar (hexpansion _ (mem_upperExpansions_of_lookup hlookup) code hcode)
  | none =>
    cases hfind : upperRuns.find? (·.covers c.toNat) with
    | some run =>
      -- The character lies on the run, so its upper case lies among the targets of the run.
      simp only [hlookup, hfind, List.mem_singleton] at h
      subst h
      have hcovers := List.find?_some hfind
      simp only [CaseRun.covers, Bool.and_eq_true, decide_eq_true_eq] at hcovers
      have hnat := toNat_ofNat_of_ne_null hnull
      have hapart := hrun run (List.mem_of_find?_eq_some hfind)
      omega
    | none =>
      simp only [hlookup, hfind, List.mem_singleton] at h
      exact h

theorem upperChar_ne_nil (c : Char) : upperChar c ≠ [] := by
  have hexpansions : ∀ entry ∈ upperExpansions, entry.2 ≠ [] := by decide +kernel
  unfold upperChar
  cases hlookup : upperExpansions.lookup c.toNat with
  | some codes => simpa using hexpansions _ (mem_upperExpansions_of_lookup hlookup)
  | none => cases upperRuns.find? (·.covers c.toNat) <;> simp

/-! ## White space in upper case -/

/-- The characters of the property White_Space, one by one. -/
def whiteChars : List Char :=
  whiteRanges.flatMap fun r => (List.range' r.1 (r.2 + 1 - r.1)).map Char.ofNat

theorem mem_whiteChars_of_isWhite {c : Char} (h : isWhite c = true) : c ∈ whiteChars := by
  simp only [isWhite, inRanges, List.any_eq_true, Bool.and_eq_true, decide_eq_true_eq] at h
  obtain ⟨r, hr, hfirst, hlast⟩ := h
  refine List.mem_flatMap.mpr ⟨r, hr, List.mem_map.mpr ⟨c.toNat, ?_, Char.ofNat_toNat c⟩⟩
  rw [List.mem_range'_1]
  omega

/-- White space is its own upper case. -/
theorem upperChar_of_white {c : Char} (h : isWhite c = true) : upperChar c = [c] := by
  have hwhite : whiteChars.all (fun c => decide (upperChar c = [c])) = true := by decide +kernel
  exact of_decide_eq_true (List.all_eq_true.mp hwhite c (mem_whiteChars_of_isWhite h))

/-- Upper case makes no white space. -/
theorem isWhite_of_mem_upperChar {c m : Char} (h : m ∈ upperChar c) (hm : isWhite m = true) :
    isWhite c = true := by
  have hwhite : whiteChars.all isUnreached = true := by decide +kernel
  have hunreached := List.all_eq_true.mp hwhite m (mem_whiteChars_of_isWhite hm)
  rw [← eq_of_mem_upperChar hunreached h]
  exact hm

theorem upper_append (xs ys : List Char) : upper (xs ++ ys) = upper xs ++ upper ys :=
  List.flatMap_append

/-- Where a character is not white, its upper case begins with one that is not. -/
theorem trimStart_upperChar_append {c : Char} (h : isWhite c = false) (cs : List Char) :
    trimStart (upperChar c ++ cs) = upperChar c ++ cs := by
  cases hupper : upperChar c with
  | nil => exact absurd hupper (upperChar_ne_nil c)
  | cons m ms =>
    have hm : ¬ isWhite m = true := by
      intro hm
      rw [isWhite_of_mem_upperChar (hupper ▸ List.mem_cons_self) hm] at h
      cases h
    rw [List.cons_append, trimStart, List.dropWhile_cons_of_neg hm]

/-- **Upper case keeps white space where it is.** -/
theorem trimStart_upper (cs : List Char) : trimStart (upper cs) = upper (trimStart cs) := by
  induction cs with
  | nil => rfl
  | cons c cs ih =>
    rw [upper, List.flatMap_cons]
    by_cases hc : isWhite c = true
    · rw [upperChar_of_white hc, List.singleton_append, trimStart, trimStart,
        List.dropWhile_cons_of_pos hc, List.dropWhile_cons_of_pos hc]
      exact ih
    · rw [trimStart_upperChar_append (Bool.not_eq_true _ ▸ hc), trimStart,
        List.dropWhile_cons_of_neg hc, upper, List.flatMap_cons]

/-! ## Trimming texts in a row -/

section Trim

variable {xs ys : List Char}

theorem trimStart_eq_nil_iff : trimStart xs = [] ↔ ∀ c ∈ xs, isWhite c = true :=
  List.dropWhile_eq_nil_iff

theorem trimStart_append_of_white (h : ∀ c ∈ xs, isWhite c = true) (ys : List Char) :
    trimStart (xs ++ ys) = trimStart ys :=
  List.dropWhile_append_of_pos h

theorem trimStart_append_of_visible (h : ¬ ∀ c ∈ xs, isWhite c = true) (ys : List Char) :
    trimStart (xs ++ ys) = trimStart xs ++ ys := by
  have hne : trimStart xs ≠ [] := trimStart_eq_nil_iff.not.mpr h
  rw [trimStart, List.dropWhile_append]
  simp only [List.isEmpty_iff]
  exact if_neg hne

theorem trimEnd_append_of_white (xs : List Char) (h : ∀ c ∈ ys, isWhite c = true) :
    trimEnd (xs ++ ys) = trimEnd xs := by
  rw [trimEnd, List.reverse_append, List.dropWhile_append_of_pos fun c hc =>
    h c (List.mem_reverse.mp hc), trimEnd]

theorem trimEnd_append_of_visible (xs : List Char) (h : ¬ ∀ c ∈ ys, isWhite c = true) :
    trimEnd (xs ++ ys) = xs ++ trimEnd ys := by
  have hreverse : ¬ ∀ c ∈ ys.reverse, isWhite c = true := by
    simpa only [List.mem_reverse] using h
  have htrim := trimStart_append_of_visible hreverse xs.reverse
  rw [trimStart, trimStart] at htrim
  rw [trimEnd, List.reverse_append, htrim, List.reverse_append, List.reverse_reverse, trimEnd]

theorem trimEnd_concat_of_visible (xs : List Char) {c : Char} (h : ¬ isWhite c = true) :
    trimEnd (xs ++ [c]) = xs ++ [c] :=
  List.rdropWhile_concat_neg isWhite xs c h

/-- What is left by trimming does not end in white space. -/
theorem isWhite_getLast?_trimEnd {c : Char} (h : c ∈ (trimEnd xs).getLast?) : isWhite c = false := by
  obtain ⟨hne, rfl⟩ := List.mem_getLast?_eq_getLast h
  exact Bool.not_eq_true _ ▸ List.rdropWhile_last_not isWhite xs hne

end Trim

end TableScript.Text
