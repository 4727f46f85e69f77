import TableScript.Proofs.Splitting
import TableScript.Proofs.White

/-!
# Texts without marks

The split of a script goes by a few characters, its `marks`: the semicolon and the quote characters
of the dialects.

Results:
* `closed_of_unmarked`: a text without any is closed. For a fixed text this is decided
  (`closed_of_avoids`), and for a class of characters it is read off the class (`closed_of_class`).
* `mem_of_mem_upper`: upper case adds no mark to a text.
* `closed_trim_iff`: trimming takes none away.
-/

namespace TableScript.Script

open Text

/-- The characters that a split goes by: the semicolon and the quote characters of the dialects. -/
def marks : List Char := [';', '\x60', '"']

/-! ## Texts without marks are closed -/

section Unmarked

variable {q : Char} {cs : List Char}

theorem closed_of_unmarked (hq : q ∈ marks) (h : ∀ c ∈ cs, c ∉ marks) : Closed q cs := by
  refine closed_of_plain fun c hc => ⟨?_, ?_⟩
  · rintro rfl
    exact h ';' hc List.mem_cons_self
  · rintro rfl
    exact h c hc hq

/-- Of a fixed text this is decided. -/
theorem closed_of_avoids (hq : q ∈ marks) {text : String}
    (h : avoids marks text.toList = true := by decide) : Closed q text.toList :=
  closed_of_unmarked hq (avoids_iff.mp h)

/-- So is a text of a class of characters with no mark among them. -/
theorem closed_of_class (hq : q ∈ marks) {p : Char → Bool} (hp : marks.any p = false)
    (h : ∀ c ∈ cs, p c = true) : Closed q cs :=
  closed_of_unmarked hq fun c hc hmark => List.any_eq_false.mp hp c hmark (h c hc)

end Unmarked

/-! ## Upper case -/

/-- **Upper case adds no mark to a text.** -/
theorem mem_of_mem_upper {cs : List Char} {m : Char} (hm : m ∈ marks) (h : m ∈ upper cs) :
    m ∈ cs := by
  have hmarks : marks.all isUnreached = true := by decide +kernel
  obtain ⟨c, hc, hmc⟩ := List.mem_flatMap.mp h
  rw [eq_of_mem_upperChar (List.all_eq_true.mp hmarks m hm) hmc]
  exact hc

/-! ## Trimming -/

/-- Trimming takes white space off the ends and nothing else. -/
theorem exists_append_trim (cs : List Char) :
    ∃ front back, (∀ c ∈ front, isWhite c = true) ∧ (∀ c ∈ back, isWhite c = true) ∧
      cs = front ++ (trim cs ++ back) := by
  refine ⟨cs.takeWhile isWhite, ((trimStart cs).reverse.takeWhile isWhite).reverse,
    fun c hc => ?_, fun c hc => ?_, ?_⟩
  · exact List.all_eq_true.mp List.all_takeWhile c hc
  · exact List.all_eq_true.mp List.all_takeWhile c (List.mem_reverse.mp hc)
  · rw [trim, trimEnd, ← List.reverse_append, List.takeWhile_append_dropWhile,
      List.reverse_reverse, trimStart, List.takeWhile_append_dropWhile]

theorem closed_trim_iff {q : Char} (hq : q ∈ marks) {cs : List Char} :
    Closed q (trim cs) ↔ Closed q cs := by
  obtain ⟨front, back, hfront, hback, hcs⟩ := exists_append_trim cs
  have hwhite : marks.any isWhite = false := by decide
  have hiff : Closed q (front ++ (trim cs ++ back)) ↔ Closed q (trim cs) :=
    (closed_of_class hq hwhite hfront).append_iff_right.trans
      (closed_of_class hq hwhite hback).append_iff_left
  rw [← hcs] at hiff
  exact hiff.symm

end TableScript.Script
