import Mathlib.Data.List.Forall2

/-!
# Steps and lists up to the first failure

What two steps give, one after the other, and what working through a list gives. Every fact is an
equivalence, one for success and one for failure, so that callers take a computation apart without
unfolding it.

Results:
* `bind_eq_ok_iff`, `bind_eq_error_iff`: two steps succeed if both do, and fail with what the first
  of them that fails does. `map_eq_ok_iff`, `map_eq_error_iff`, `mapError_eq_ok_iff` and
  `mapError_eq_error_iff` take one step apart in the same way.
* `mapM_eq_ok_iff`: working through a list succeeds exactly when every element does, and gives the
  results in order; `mapM_eq_ok_iff_forall₂` says the same element by element.
* `mapM_eq_error_iff`: it fails exactly with what the first element that fails does.
-/

namespace TableScript

variable {α β ε : Type} {g : α → Except ε β}

/-! ## Steps -/

@[simp] theorem ok_bind (a : α) : (Except.ok a >>= g) = g a := rfl

@[simp] theorem error_bind (e : ε) : (Except.error e >>= g) = .error e := rfl

theorem bind_eq_ok_iff {x : Except ε α} {b : β} :
    x >>= g = .ok b ↔ ∃ a, x = .ok a ∧ g a = .ok b := by
  cases x with
  | error e => exact ⟨nofun, nofun⟩
  | ok a => exact ⟨fun h => ⟨a, rfl, h⟩, fun ⟨_, ha, h⟩ => Except.ok.inj ha ▸ h⟩

theorem bind_eq_error_iff {x : Except ε α} {e : ε} :
    x >>= g = .error e ↔ x = .error e ∨ ∃ a, x = .ok a ∧ g a = .error e := by
  cases x with
  | error e' =>
    constructor
    · intro h
      exact .inl (congrArg _ (Except.error.inj h))
    · rintro (h | ⟨_, h, -⟩)
      · exact congrArg _ (Except.error.inj h)
      · cases h
  | ok a =>
    constructor
    · exact fun h => .inr ⟨a, rfl, h⟩
    · rintro (h | ⟨_, ha, h⟩)
      · cases h
      · exact Except.ok.inj ha ▸ h

/-- A last step that cannot fail changes nothing about failing. -/
theorem bind_pure_eq_error_iff {f : α → β} {x : Except ε α} {e : ε} :
    (x >>= fun a => pure (f a)) = .error e ↔ x = .error e := by
  rw [bind_eq_error_iff, or_iff_left]
  rintro ⟨a, -, h⟩
  cases h

theorem map_eq_ok_iff {f : α → β} {x : Except ε α} {b : β} :
    x.map f = .ok b ↔ ∃ a, x = .ok a ∧ f a = b := by
  cases x with
  | error e => exact ⟨nofun, nofun⟩
  | ok a => exact ⟨fun h => ⟨a, rfl, Except.ok.inj h⟩, fun ⟨_, ha, h⟩ => by cases ha; exact h ▸ rfl⟩

theorem map_eq_error_iff {f : α → β} {x : Except ε α} {e : ε} :
    x.map f = .error e ↔ x = .error e := by
  cases x <;> simp [Except.map]

theorem mapError_eq_error_iff {ε' : Type} {f : ε → ε'} {x : Except ε α} {e' : ε'} :
    x.mapError f = .error e' ↔ ∃ e, x = .error e ∧ f e = e' := by
  cases x <;> simp [Except.mapError]

theorem mapError_eq_ok_iff {ε' : Type} {f : ε → ε'} {x : Except ε α} {a : α} :
    x.mapError f = .ok a ↔ x = .ok a := by
  cases x <;> simp [Except.mapError]

/-! ## Lists -/

theorem exists_mem_of_forall₂ {R : α → β → Prop} {xs : List α} {ys : List β}
    (h : List.Forall₂ R xs ys) {x : α} (hx : x ∈ xs) : ∃ y ∈ ys, R x y := by
  induction h with
  | nil => cases hx
  | cons hxy _ ih =>
    rcases List.mem_cons.mp hx with rfl | hx
    · exact ⟨_, List.mem_cons_self, hxy⟩
    · obtain ⟨y, hy, hR⟩ := ih hx
      exact ⟨y, List.mem_cons_of_mem _ hy, hR⟩

/-- Where one list is cut, the other can be cut beside it. -/
theorem exists_split_of_forall₂ {R : α → β → Prop} {pre : List α} {x : α} {post : List α}
    {ys : List β} (h : List.Forall₂ R (pre ++ x :: post) ys) :
    ∃ pre' y post', ys = pre' ++ y :: post' ∧ List.Forall₂ R pre pre' ∧ R x y := by
  induction pre generalizing ys with
  | nil =>
    obtain ⟨y, post', hxy, -, rfl⟩ := List.forall₂_cons_left_iff.mp h
    exact ⟨[], y, post', rfl, .nil, hxy⟩
  | cons z pre ih =>
    obtain ⟨w, ys, hzw, hrest, rfl⟩ := List.forall₂_cons_left_iff.mp h
    obtain ⟨pre', y, post', rfl, hpre, hxy⟩ := ih hrest
    exact ⟨w :: pre', y, post', rfl, .cons hzw hpre, hxy⟩

/-- A list is worked through exactly when every element is, each on its own. -/
theorem mapM_eq_ok_iff : ∀ {xs : List α} {ys : List β},
    xs.mapM g = .ok ys ↔ xs.map g = ys.map .ok
  | [], ys => by
    rw [List.mapM_nil, List.map_nil]
    exact ⟨fun h => Except.ok.inj h ▸ rfl, fun h => by rw [List.map_eq_nil_iff.mp h.symm]; rfl⟩
  | x :: xs, ys => by
    rw [List.mapM_cons, List.map_cons]
    cases hx : g x with
    | error e =>
      constructor
      · intro h
        cases h
      · intro h
        cases ys with
        | nil => cases h
        | cons y ys => exact absurd (List.cons.inj h).1 nofun
    | ok y =>
      constructor
      · intro h
        cases hxs : xs.mapM g with
        | error e =>
          rw [hxs] at h
          cases h
        | ok zs =>
          rw [hxs] at h
          obtain rfl := Except.ok.inj h
          rw [List.map_cons, mapM_eq_ok_iff.mp hxs]
      · intro h
        cases ys with
        | nil => cases h
        | cons z zs =>
          obtain ⟨hz, hzs⟩ := List.cons.inj h
          rw [mapM_eq_ok_iff.mpr hzs, Except.ok.inj hz]
          rfl

/-- The first element that fails decides what a list fails with. -/
theorem mapM_append_cons_eq_error {e : ε} {x : α} {pre post : List α}
    (hpre : ∀ y ∈ pre, ∃ b, g y = .ok b) (hx : g x = .error e) :
    (pre ++ x :: post).mapM g = .error e := by
  induction pre with
  | nil =>
    rw [List.nil_append, List.mapM_cons, hx]
    rfl
  | cons y pre ih =>
    obtain ⟨b, hy⟩ := hpre y List.mem_cons_self
    rw [List.cons_append, List.mapM_cons, hy, ih fun z hz => hpre z (List.mem_cons_of_mem y hz)]
    rfl

/-- A list fails with what its first failing element fails with. -/
theorem mapM_eq_error_iff {e : ε} {xs : List α} :
    xs.mapM g = .error e ↔
      ∃ pre x post, xs = pre ++ x :: post ∧ (∀ y ∈ pre, ∃ b, g y = .ok b) ∧ g x = .error e := by
  constructor
  · intro h
    induction xs with
    | nil => cases h
    | cons x xs ih =>
      rw [List.mapM_cons] at h
      rcases bind_eq_error_iff.mp h with hx | ⟨b, hx, hrest⟩
      · exact ⟨[], x, xs, rfl, nofun, hx⟩
      · rcases bind_eq_error_iff.mp hrest with hxs | ⟨_, _, hdone⟩
        · obtain ⟨pre, z, post, rfl, hpre, hz⟩ := ih hxs
          exact ⟨x :: pre, z, post, rfl, List.forall_mem_cons.mpr ⟨⟨b, hx⟩, hpre⟩, hz⟩
        · cases hdone
  · rintro ⟨pre, x, post, rfl, hpre, hx⟩
    exact mapM_append_cons_eq_error hpre hx

theorem exists_of_mapM_eq_error {e : ε} {xs : List α} (h : xs.mapM g = .error e) :
    ∃ x ∈ xs, g x = .error e := by
  obtain ⟨pre, x, post, rfl, -, hx⟩ := mapM_eq_error_iff.mp h
  exact ⟨x, List.mem_append_right pre List.mem_cons_self, hx⟩

/-- The results stand beside the elements that they are for. -/
theorem mapM_eq_ok_iff_forall₂ {xs : List α} {ys : List β} :
    xs.mapM g = .ok ys ↔ List.Forall₂ (fun x y => g x = .ok y) xs ys := by
  rw [mapM_eq_ok_iff, ← List.forall₂_eq_eq_eq, List.forall₂_map_left_iff,
    List.forall₂_map_right_iff]

theorem exists_mapM_eq_ok_iff {xs : List α} :
    (∃ ys, xs.mapM g = .ok ys) ↔ ∀ x ∈ xs, ∃ y, g x = .ok y := by
  constructor
  · rintro ⟨ys, h⟩ x hx
    have hmem : g x ∈ ys.map Except.ok := mapM_eq_ok_iff.mp h ▸ List.mem_map_of_mem hx
    obtain ⟨y, -, hy⟩ := List.mem_map.mp hmem
    exact ⟨y, hy.symm⟩
  · intro h
    cases hxs : xs.mapM g with
    | ok ys => exact ⟨ys, rfl⟩
    | error e =>
      obtain ⟨x, hx, hfails⟩ := exists_of_mapM_eq_error hxs
      obtain ⟨y, hy⟩ := h x hx
      rw [hfails] at hy
      cases hy

/-- What holds of all results is what holds of the result of each. -/
theorem forall_mem_iff_of_mapM_eq_ok {xs : List α} {ys : List β} (h : xs.mapM g = .ok ys)
    {P : β → Prop} : (∀ y ∈ ys, P y) ↔ ∀ x ∈ xs, ∀ y, g x = .ok y → P y := by
  have heach := mapM_eq_ok_iff.mp h
  constructor
  · intro hall x hx y hy
    have hmem : g x ∈ ys.map Except.ok := heach ▸ List.mem_map_of_mem hx
    obtain ⟨z, hz, hzy⟩ := List.mem_map.mp hmem
    obtain rfl := Except.ok.inj (hzy.trans hy)
    exact hall z hz
  · intro hall y hy
    have hmem : Except.ok y ∈ xs.map g := heach ▸ List.mem_map_of_mem hy
    obtain ⟨x, hx, hxy⟩ := List.mem_map.mp hmem
    exact hall x hx y hxy

end TableScript
