/-!
# Splitting lists

* `pieces` splits a list at every separator; the pieces keep their order and empty ones stay.
* `cut` splits a list at the first separator and says whether there was one.
-/

namespace Signpost

variable {α : Type}

/-- Puts an element in front of the first piece. -/
def consFirst (x : α) : List (List α) → List (List α)
  | [] => [[x]]
  | p :: ps => (x :: p) :: ps

/-- The pieces of a list between its separators: one more than there are separators. -/
def pieces (sep : α → Bool) : List α → List (List α)
  | [] => [[]]
  | x :: xs => if sep x then [] :: pieces sep xs else consFirst x (pieces sep xs)

/-- What stands before the first separator, and what stands after it if there is one. -/
def cut (sep : α → Bool) : List α → List α × Option (List α)
  | [] => ([], none)
  | x :: xs =>
    if sep x then ([], some xs)
    else (x :: (cut sep xs).1, (cut sep xs).2)

theorem pieces_ne_nil (sep : α → Bool) (xs : List α) : pieces sep xs ≠ [] := by
  cases xs with
  | nil => simp [pieces]
  | cons x xs =>
    by_cases h : sep x
    · simp [pieces, h]
    · cases hp : pieces sep xs <;> simp [pieces, h, hp, consFirst]

/-- What stands in the pieces of a list stands in the list and is no separator. -/
theorem of_mem_pieces {sep : α → Bool} {xs : List α} :
    ∀ p ∈ pieces sep xs, ∀ x ∈ p, x ∈ xs ∧ sep x = false := by
  induction xs with
  | nil => simp [pieces]
  | cons y ys ih =>
    have ih' : ∀ p ∈ pieces sep ys, ∀ x ∈ p, x ∈ y :: ys ∧ sep x = false := fun p hp x hx =>
      ⟨List.mem_cons_of_mem _ (ih p hp x hx).1, (ih p hp x hx).2⟩
    rw [pieces]
    split
    · simpa using ih'
    · rename_i hy
      rcases hp : pieces sep ys with _ | ⟨q, qs⟩
      · exact absurd hp (pieces_ne_nil sep ys)
      · rw [hp] at ih'
        simpa [consFirst, hy] using ih'

/-- A list without separators is its own only piece. -/
theorem pieces_of_forall {sep : α → Bool} {xs : List α} (h : ∀ x ∈ xs, sep x = false) :
    pieces sep xs = [xs] := by
  induction xs with
  | nil => rfl
  | cons x xs ih =>
    have hx := h x (by simp)
    have := ih fun y hy => h y (by simp [hy])
    simp [pieces, hx, this, consFirst]

/-- The first piece of a list ends where the first separator stands. -/
theorem pieces_append_cons {sep : α → Bool} {xs : List α} (h : ∀ x ∈ xs, sep x = false) {s : α}
    (hs : sep s = true) (ys : List α) : pieces sep (xs ++ s :: ys) = xs :: pieces sep ys := by
  induction xs with
  | nil => simp [pieces, hs]
  | cons x xs ih =>
    have hx := h x (by simp)
    have := ih fun y hy => h y (by simp [hy])
    simp [pieces, hx, this, consFirst]

/-- Lists without separators are the pieces of what a separator between them makes of them. -/
theorem pieces_intersperse {sep : α → Bool} {s : α} (hs : sep s = true) {xss : List (List α)}
    (hne : xss ≠ []) (h : ∀ xs ∈ xss, ∀ x ∈ xs, sep x = false) :
    pieces sep (List.intersperse [s] xss).flatten = xss := by
  induction xss with
  | nil => exact absurd rfl hne
  | cons xs rest ih =>
    cases rest with
    | nil => simpa using pieces_of_forall (h xs (by simp))
    | cons ys rest =>
      have hr := ih (by simp) fun zs hz => h zs (by simp [hz])
      rw [List.intersperse_cons_cons, List.flatten_cons, List.flatten_cons, List.singleton_append,
        pieces_append_cons (h xs (by simp)) hs, hr]

/-- What stands in joined lists is the separator or stands in one of them. -/
theorem mem_flatten_intersperse {s x : α} {xss : List (List α)}
    (h : x ∈ (List.intersperse [s] xss).flatten) : x = s ∨ ∃ xs ∈ xss, x ∈ xs := by
  induction xss with
  | nil => cases h
  | cons xs rest ih =>
    cases rest with
    | nil => exact .inr ⟨xs, by simp, by simpa using h⟩
    | cons ys rest =>
      rw [List.intersperse_cons_cons, List.flatten_cons, List.flatten_cons, List.mem_append,
        List.mem_append, List.mem_singleton] at h
      rcases h with h | h | h
      · exact .inr ⟨xs, by simp, h⟩
      · exact .inl h
      · exact (ih h).imp_right fun ⟨zs, hzs, hx⟩ => ⟨zs, List.mem_cons_of_mem _ hzs, hx⟩

/-- A list without separators is not cut. -/
theorem cut_of_forall {sep : α → Bool} {xs : List α} (h : ∀ x ∈ xs, sep x = false) :
    cut sep xs = (xs, none) := by
  induction xs with
  | nil => rfl
  | cons x xs ih =>
    have hx := h x (by simp)
    have := ih fun y hy => h y (by simp [hy])
    simp [cut, hx, this]

/-- What a list is cut into is the list, with the separator between. -/
theorem append_cut [DecidableEq α] (s : α) (xs : List α) :
    (cut (· = s) xs).1 ++ ((cut (· = s) xs).2.map (s :: ·)).getD [] = xs := by
  induction xs with
  | nil => rfl
  | cons x xs ih =>
    by_cases hx : x = s
    · simp [cut, hx]
    · simp [cut, hx, ih]

/-- A list is cut at its first separator. -/
theorem cut_append_cons {sep : α → Bool} {xs : List α} (h : ∀ x ∈ xs, sep x = false) {s : α}
    (hs : sep s = true) (ys : List α) : cut sep (xs ++ s :: ys) = (xs, some ys) := by
  induction xs with
  | nil => simp [cut, hs]
  | cons x xs ih =>
    have hx := h x (by simp)
    have := ih fun y hy => h y (by simp [hy])
    simp [cut, hx, this]

end Signpost
