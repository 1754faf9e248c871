import ResourceApi.Text.Split

/-!
# Pieces between separators

What the pieces of a text are, said without the loop that finds them: the parts that hold no
separator, each between two separators or at an end of the text.

## Main definitions

- `IsPiece` — a part of a text between separators

## Main results

- `mem_pieces_iff` — the pieces of a text are its parts between separators
- `cut_eq_some_iff`, `cut_eq_none_iff` — a text is cut at its first separator
-/

namespace ResourceApi.Text

variable {α : Type} {sep : α}

def behind (sep : α) (pieces : List (List α)) : List α := pieces.flatMap (sep :: ·)

theorem behind_cases (sep : α) (pieces : List (List α)) :
    behind sep pieces = [] ∨ ∃ rest, behind sep pieces = sep :: rest := by
  cases pieces with
  | nil => exact .inl rfl
  | cons piece pieces => exact .inr ⟨piece ++ behind sep pieces, rfl⟩

variable [DecidableEq α]

theorem pieces_cons_sep (xs : List α) : pieces sep (sep :: xs) = [] :: pieces sep xs := by
  rw [pieces, if_pos rfl]

theorem pieces_cons {x : α} (h : x ≠ sep) (xs : List α) :
    ∃ piece rest, pieces sep xs = piece :: rest ∧ pieces sep (x :: xs) = (x :: piece) :: rest := by
  cases hp : pieces sep xs with
  | nil => exact absurd hp (pieces_ne_nil sep xs)
  | cons piece rest => exact ⟨piece, rest, rfl, by rw [pieces, if_neg h, hp]⟩

/-- The pieces with their separators make up the text. -/
theorem eq_of_pieces {xs piece : List α} {rest : List (List α)}
    (h : pieces sep xs = piece :: rest) : xs = piece ++ behind sep rest := by
  induction xs generalizing piece rest with
  | nil =>
    obtain ⟨rfl, rfl⟩ := List.cons.inj h
    rfl
  | cons x xs ih =>
    by_cases hx : x = sep
    · subst hx
      rw [pieces_cons_sep] at h
      obtain ⟨rfl, rfl⟩ := List.cons.inj h
      cases hp : pieces x xs with
      | nil => exact absurd hp (pieces_ne_nil x xs)
      | cons first others =>
        rw [List.nil_append, behind, List.flatMap_cons, List.cons_append, ← behind, ← ih hp]
    · obtain ⟨first, others, hp, hcons⟩ := pieces_cons hx xs
      rw [hcons] at h
      obtain ⟨rfl, rfl⟩ := List.cons.inj h
      rw [List.cons_append, ← ih hp]

theorem not_mem_of_mem_pieces {xs piece : List α} (h : piece ∈ pieces sep xs) : sep ∉ piece := by
  induction xs generalizing piece with
  | nil =>
    obtain rfl := List.mem_singleton.mp h
    exact List.not_mem_nil
  | cons x xs ih =>
    by_cases hx : x = sep
    · subst hx
      rw [pieces_cons_sep] at h
      rcases List.mem_cons.mp h with rfl | h
      · exact List.not_mem_nil
      · exact ih h
    · obtain ⟨first, others, hp, hcons⟩ := pieces_cons hx xs
      rw [hcons] at h
      rw [hp] at ih
      rcases List.mem_cons.mp h with rfl | h
      · have hfirst : sep ∉ first := ih (List.mem_cons_self ..)
        intro hsep
        rcases List.mem_cons.mp hsep with rfl | hsep
        · exact hx rfl
        · exact hfirst hsep
      · exact ih (List.mem_cons_of_mem _ h)

/-- Every character of a text is a separator or stands in a piece. -/
theorem mem_piece_of_mem (sep : α) {xs : List α} {x : α} (h : x ∈ xs) :
    x = sep ∨ ∃ piece ∈ pieces sep xs, x ∈ piece := by
  induction xs with
  | nil => exact absurd h List.not_mem_nil
  | cons y xs ih =>
    by_cases hy : y = sep
    · subst hy
      rw [pieces_cons_sep]
      rcases List.mem_cons.mp h with rfl | h
      · exact .inl rfl
      · rcases ih h with rfl | ⟨piece, hpiece, hx⟩
        · exact .inl rfl
        · exact .inr ⟨piece, List.mem_cons_of_mem _ hpiece, hx⟩
    · obtain ⟨first, others, hp, hcons⟩ := pieces_cons hy xs
      rw [hp] at ih
      rw [hcons]
      rcases List.mem_cons.mp h with rfl | h
      · exact .inr ⟨_, List.mem_cons_self .., List.mem_cons_self ..⟩
      · rcases ih h with rfl | ⟨piece, hpiece, hx⟩
        · exact .inl rfl
        · rcases List.mem_cons.mp hpiece with rfl | hpiece
          · exact .inr ⟨_, List.mem_cons_self .., List.mem_cons_of_mem _ hx⟩
          · exact .inr ⟨piece, List.mem_cons_of_mem _ hpiece, hx⟩

theorem pieces_of_not_mem {xs : List α} (h : sep ∉ xs) : pieces sep xs = [xs] := by
  induction xs with
  | nil => rfl
  | cons x xs ih =>
    obtain ⟨hx, hxs⟩ := not_or.mp (mt List.mem_cons.mpr h)
    rw [pieces, if_neg (Ne.symm hx), ih hxs]

/-- A separator parts the pieces in front of it from those behind it. -/
theorem pieces_append_sep (xs ys : List α) :
    pieces sep (xs ++ sep :: ys) = pieces sep xs ++ pieces sep ys := by
  induction xs with
  | nil => exact pieces_cons_sep ys
  | cons x xs ih =>
    rw [List.cons_append]
    by_cases hx : x = sep
    · subst hx
      rw [pieces_cons_sep, pieces_cons_sep, ih, List.cons_append]
    · obtain ⟨first, others, hp, hcons⟩ := pieces_cons hx xs
      rw [hp] at ih
      rw [hcons, pieces, if_neg hx, ih]
      rfl

/-- A part of a text that holds no separator and lies between separators or at an end. -/
structure IsPiece (sep : α) (xs piece : List α) : Prop where
  free : sep ∉ piece
  between : ∃ front back, xs = front ++ piece ++ back ∧
    (front = [] ∨ ∃ before, front = before ++ [sep]) ∧ (back = [] ∨ ∃ after, back = sep :: after)

/-- The pieces of a text are its parts between separators. -/
theorem mem_pieces_iff {xs piece : List α} : piece ∈ pieces sep xs ↔ IsPiece sep xs piece := by
  constructor
  · intro h
    refine ⟨not_mem_of_mem_pieces h, ?_⟩
    -- In front of a piece stand the pieces before it, each with a separator behind it.
    obtain ⟨earlier, later, hsplit⟩ := List.append_of_mem h
    cases earlier with
    | nil => exact ⟨[], behind sep later, eq_of_pieces hsplit, .inl rfl, behind_cases sep later⟩
    | cons first earlier =>
      refine ⟨first ++ behind sep earlier ++ [sep], behind sep later, ?_, .inr ⟨_, rfl⟩,
        behind_cases sep later⟩
      rw [eq_of_pieces hsplit]
      simp [behind]
  · rintro ⟨hfree, front, back, rfl, hfront, hback⟩
    have hpiece : piece ∈ pieces sep (piece ++ back) := by
      rcases hback with rfl | ⟨after, rfl⟩
      · rw [List.append_nil, pieces_of_not_mem hfree]
        exact List.mem_singleton.mpr rfl
      · rw [pieces_append_sep, pieces_of_not_mem hfree]
        exact List.mem_cons_self ..
    rw [List.append_assoc]
    rcases hfront with rfl | ⟨before, rfl⟩
    · exact hpiece
    · rw [List.append_assoc, List.singleton_append, pieces_append_sep]
      exact List.mem_append_right _ hpiece

/-! ## Cuts -/

theorem cut_cons {x : α} (h : x ≠ sep) (xs : List α) :
    cut sep (x :: xs) = (cut sep xs).map fun parts => (x :: parts.1, parts.2) := by
  rw [cut, if_neg h]
  cases cut sep xs <;> rfl

theorem cut_eq_none_iff {xs : List α} : cut sep xs = none ↔ sep ∉ xs := by
  induction xs with
  | nil => simp [cut]
  | cons x xs ih =>
    by_cases hx : x = sep
    · simp [cut, hx]
    · rw [cut_cons hx, Option.map_eq_none_iff, ih, List.mem_cons, not_or]
      exact ⟨fun h => ⟨Ne.symm hx, h⟩, And.right⟩

/-- A text is cut at its first separator. -/
theorem cut_eq_some_iff {xs before after : List α} :
    cut sep xs = some (before, after) ↔ xs = before ++ sep :: after ∧ sep ∉ before := by
  constructor
  · intro h
    refine ⟨eq_of_cut_eq_some h, ?_⟩
    induction xs generalizing before with
    | nil => cases h
    | cons x xs ih =>
      by_cases hx : x = sep
      · rw [cut, if_pos hx] at h
        obtain ⟨rfl, -⟩ := Prod.mk.inj (Option.some.inj h)
        exact List.not_mem_nil
      · rw [cut_cons hx, Option.map_eq_some_iff] at h
        obtain ⟨⟨front, back⟩, hcut, heq⟩ := h
        obtain ⟨rfl, rfl⟩ := Prod.mk.inj heq
        exact fun hmem => (List.mem_cons.mp hmem).elim (Ne.symm hx) (ih hcut)
  · rintro ⟨rfl, hfree⟩
    induction before with
    | nil => rw [List.nil_append, cut, if_pos rfl]
    | cons x before ih =>
      obtain ⟨hx, hrest⟩ := not_or.mp (mt List.mem_cons.mpr hfree)
      rw [List.cons_append, cut_cons (Ne.symm hx), ih hrest]
      rfl

end ResourceApi.Text
