/-!
# Words in a row

A statement is made of words that stand one behind the other or are joined by a separator. This
module has what its parts share, for lists of characters of any sort.

* `Readable` says that one word can be told from any other in front of what may follow it, and
  `EndsRow` what may follow a row of words: it may follow a word, and no word begins it.
* `avoids` decides whether a text is free of certain characters.

Results:
* `Readable.flatMap_inj`: a row of readable words and the text behind it can be read in one way
  only, by induction on both rows.
* `toList_intercalate_cons`: a joined text is such a row, each word with the separator in front.
-/

namespace TableScript.Text

/-! ## Joined texts -/

theorem intercalate_cons (sep : List Char) (x : List Char) :
    ∀ xs : List (List Char), sep.intercalate (x :: xs) = x ++ xs.flatMap (sep ++ ·)
  | [] => by simp
  | y :: ys => by
    rw [List.intercalate_cons_cons, intercalate_cons sep y ys, List.flatMap_cons]
    simp only [List.append_assoc]

/-- A joined text is its first part and then, for every other part, the separator and the part. -/
theorem toList_intercalate_cons (sep x : String) (xs : List String) :
    (sep.intercalate (x :: xs)).toList =
      x.toList ++ xs.flatMap fun y => sep.toList ++ y.toList := by
  rw [String.toList_intercalate, List.map_cons, intercalate_cons, List.flatMap_map]

/-- A joined text, cut at one of its parts. -/
theorem toList_intercalate_append_cons (sep x : String) : ∀ pre post : List String,
    (sep.intercalate (pre ++ x :: post)).toList =
      (pre.flatMap fun y => y.toList ++ sep.toList) ++
        (x.toList ++ post.flatMap fun y => sep.toList ++ y.toList)
  | [], post => toList_intercalate_cons sep x post
  | y :: ys, post => by
    have ih := toList_intercalate_append_cons sep x ys post
    rw [List.cons_append, toList_intercalate_cons, List.flatMap_cons, List.append_assoc, ← ih]
    cases ys with
    | nil =>
      rw [List.nil_append, List.flatMap_cons, toList_intercalate_cons]
      simp only [List.append_assoc]
    | cons z zs =>
      rw [List.cons_append, List.flatMap_cons, toList_intercalate_cons]
      simp only [List.append_assoc]

/-! ## Texts without certain characters -/

/-- None of the marks stands in the text. -/
def avoids (marks cs : List Char) : Bool := cs.all fun c => !marks.contains c

theorem avoids_iff {marks cs : List Char} : avoids marks cs = true ↔ ∀ c ∈ cs, c ∉ marks := by
  simp [avoids]

/-! ## Reading a row of words -/

/-- Two texts are the same up to a character that neither holds, and behind it. -/
theorem append_cons_inj {α : Type} {a : α} : ∀ {xs ys r s : List α}, a ∉ xs → a ∉ ys →
    xs ++ a :: r = ys ++ a :: s → xs = ys ∧ r = s
  | [], [], _, _, _, _, h => ⟨rfl, (List.cons.inj h).2⟩
  | [], y :: _, _, _, _, hy, h => absurd ((List.cons.inj h).1 ▸ List.mem_cons_self) hy
  | x :: _, [], _, _, hx, _, h => absurd ((List.cons.inj h).1 ▸ List.mem_cons_self) hx
  | x :: xs, y :: ys, r, s, hx, hy, h => by
    obtain ⟨rfl, hrest⟩ := List.cons.inj h
    obtain ⟨rfl, hend⟩ := append_cons_inj (fun hm => hx (List.mem_cons_of_mem x hm))
      (fun hm => hy (List.mem_cons_of_mem x hm)) hrest
    exact ⟨rfl, hend⟩

section Readable

variable {α β γ : Type}

/-- In front of texts that `Follows`, the words tell `view` of what they are the words for. -/
structure Readable (word : α → List β) (view : α → γ) (Follows : List β → Prop) : Prop where
  follows_word : ∀ x r, Follows (word x ++ r)
  view_eq : ∀ {x y r s}, Follows r → Follows s → word x ++ r = word y ++ s →
    view x = view y ∧ r = s

/-- What stands behind a row of words: it may follow a word, and no word begins it. -/
structure EndsRow (word : α → List β) (Follows : List β → Prop) (r : List β) : Prop where
  follows : Follows r
  no_word : ∀ x t, word x ++ t ≠ r

variable {word : α → List β} {view : α → γ} {Follows : List β → Prop}

theorem Readable.follows_flatMap (h : Readable word view Follows) {r : List β} (hr : Follows r) :
    ∀ xs : List α, Follows (xs.flatMap word ++ r)
  | [] => hr
  | x :: xs => by
    rw [List.flatMap_cons, List.append_assoc]
    exact h.follows_word x _

/-- **A row of readable words is read in one way only**, and so is where it ends. -/
theorem Readable.flatMap_inj (h : Readable word view Follows) :
    ∀ {xs ys : List α} {r s : List β}, EndsRow word Follows r → EndsRow word Follows s →
      xs.flatMap word ++ r = ys.flatMap word ++ s → xs.map view = ys.map view ∧ r = s
  | [], [], _, _, _, _, heq => ⟨rfl, heq⟩
  | [], y :: ys, r, s, hr, _, heq => by
    rw [List.flatMap_cons, List.append_assoc] at heq
    exact absurd heq.symm (hr.no_word y _)
  | x :: xs, [], r, s, _, hs, heq => by
    rw [List.flatMap_cons, List.append_assoc] at heq
    exact absurd heq (hs.no_word x _)
  | x :: xs, y :: ys, r, s, hr, hs, heq => by
    rw [List.flatMap_cons, List.flatMap_cons, List.append_assoc, List.append_assoc] at heq
    obtain ⟨hview, hrest⟩ :=
      h.view_eq (h.follows_flatMap hr.follows xs) (h.follows_flatMap hs.follows ys) heq
    obtain ⟨hviews, hend⟩ := Readable.flatMap_inj h hr hs hrest
    exact ⟨by rw [List.map_cons, List.map_cons, hview, hviews], hend⟩

end Readable

end TableScript.Text
