import ResourceApi.Proofs.Filter.Patterns

/-!
# Patterns that look for a part of a text

A pattern between two runs fits a text if the pattern fits some stretch of it. Any text fits itself
as a pattern, so the stretches that are found include the pattern itself, character for character;
but they are no other ones only if no character of the pattern stands for others.

## Main definitions

- `FitsWithin` — a pattern fits a stretch of a text
- `IsLiteral` — a pattern in which every character stands for itself
- `spelledOut` — a text without runs and underscores that a pattern fits

## Main results

- `fits_between_runs_iff` — a pattern between two runs
- `fitsWithin_iff_infix_iff` — the patterns that look for themselves
-/

namespace ResourceApi.Filter

variable {front back pattern text : List Char}

/-- A pattern fits a stretch of a text. -/
def FitsWithin (pattern text : List Char) : Prop :=
  ∃ stretch, stretch <:+: text ∧ Fits pattern stretch

/-! ## Patterns in a row -/

theorem Fits.append {s t : List Char} (hs : Fits front s) (ht : Fits back t) :
    Fits (front ++ back) (s ++ t) := by
  induction hs with
  | nil => exact ht
  | runEnd _ ih => exact ih.runEnd
  | runStep _ ih => exact ih.runStep
  | single _ ih => exact ih.single
  | literal hrun hany _ ih => exact .literal hrun hany ih

/-- Two patterns in a row share a text out between them. -/
theorem fits_append_iff :
    Fits (front ++ back) text ↔ ∃ s t, s ++ t = text ∧ Fits front s ∧ Fits back t := by
  constructor
  · intro h
    induction front generalizing text with
    | nil => exact ⟨[], text, rfl, .nil, h⟩
    | cons p front ih =>
      by_cases hp : p = '%'
      · subst hp
        obtain ⟨rest, ⟨skipped, rfl⟩, hfits⟩ := fits_run_iff.mp h
        obtain ⟨s, t, rfl, hs, ht⟩ := ih hfits
        exact ⟨skipped ++ s, t, List.append_assoc .., hs.runEnd.run skipped, ht⟩
      · cases text with
        | nil => exact absurd h (not_fits_nil hp)
        | cons c text =>
          obtain ⟨htakes, hfits⟩ := (fits_cons_iff hp).mp h
          obtain ⟨s, t, rfl, hs, ht⟩ := ih hfits
          exact ⟨c :: s, t, rfl, (fits_cons_iff hp).mpr ⟨htakes, hs⟩, ht⟩
  · rintro ⟨s, t, rfl, hs, ht⟩
    exact hs.append ht

/-- A run alone fits any text. -/
theorem fits_run_alone (text : List Char) : Fits ['%'] text := by
  have h := Fits.nil.runEnd.run text
  rwa [List.append_nil] at h

/-- **A pattern between two runs** looks for a stretch that it fits. -/
theorem fits_between_runs_iff : Fits ('%' :: (pattern ++ ['%'])) text ↔ FitsWithin pattern text := by
  rw [fits_run_iff]
  constructor
  · rintro ⟨rest, ⟨before, rfl⟩, hfits⟩
    obtain ⟨stretch, behind, rfl, hstretch, -⟩ := fits_append_iff.mp hfits
    exact ⟨stretch, ⟨before, behind, List.append_assoc ..⟩, hstretch⟩
  · rintro ⟨stretch, ⟨before, behind, rfl⟩, hfits⟩
    refine ⟨stretch ++ behind, ⟨before, (List.append_assoc ..).symm⟩, ?_⟩
    exact hfits.append (fits_run_alone behind)

/-! ## Patterns that stand for themselves -/

/-- Every text fits itself: a run may stand for `%`, and an underscore for `_`. -/
theorem fits_self (text : List Char) : Fits text text := by
  induction text with
  | nil => exact .nil
  | cons c text ih =>
    by_cases hrun : c = '%'
    · subst hrun
      exact ih.runEnd.runStep
    · exact (fits_cons_iff hrun).mpr ⟨.inr rfl, ih⟩

theorem fitsWithin_of_infix (h : pattern <:+: text) : FitsWithin pattern text :=
  ⟨pattern, h, fits_self pattern⟩

/-- No character of the pattern stands for others. -/
def IsLiteral (pattern : List Char) : Prop := '%' ∉ pattern ∧ '_' ∉ pattern

theorem IsLiteral.fits_iff (h : IsLiteral pattern) : Fits pattern text ↔ pattern = text := by
  induction pattern generalizing text with
  | nil => rw [fits_nil_iff, eq_comm]
  | cons p pattern ih =>
    obtain ⟨hrun, hany⟩ := h
    rw [List.mem_cons, not_or] at hrun hany
    have hp : p ≠ '%' := Ne.symm hrun.1
    have hq : p ≠ '_' := Ne.symm hany.1
    cases text with
    | nil => exact iff_of_false (not_fits_nil hp) (List.cons_ne_nil _ _)
    | cons c text =>
      rw [fits_cons_iff hp, or_iff_right hq, ih ⟨hrun.2, hany.2⟩, List.cons.injEq]

theorem IsLiteral.fitsWithin_iff (h : IsLiteral pattern) :
    FitsWithin pattern text ↔ pattern <:+: text := by
  constructor
  · rintro ⟨stretch, hstretch, hfits⟩
    rwa [h.fits_iff.mp hfits]
  · exact fitsWithin_of_infix

/-- What one character of a pattern may stand for, and no run or underscore. -/
def spelledOutChar (p : Char) : List Char :=
  if p = '%' then [] else if p = '_' then ['a'] else [p]

/-- A text that a pattern fits, without runs and underscores. -/
def spelledOut (pattern : List Char) : List Char := pattern.flatMap spelledOutChar

theorem isLiteral_spelledOutChar (p : Char) : IsLiteral (spelledOutChar p) := by
  unfold spelledOutChar
  split
  · exact ⟨List.not_mem_nil, List.not_mem_nil⟩
  · next hrun =>
    split
    · exact ⟨by decide, by decide⟩
    · next hany =>
      exact ⟨mt (Eq.symm ∘ List.mem_singleton.mp) hrun, mt (Eq.symm ∘ List.mem_singleton.mp) hany⟩

theorem isLiteral_spelledOut (pattern : List Char) : IsLiteral (spelledOut pattern) := by
  constructor
  all_goals
    intro hmem
    obtain ⟨p, -, hp⟩ := List.mem_flatMap.mp hmem
  · exact (isLiteral_spelledOutChar p).1 hp
  · exact (isLiteral_spelledOutChar p).2 hp

theorem fits_spelledOut (pattern : List Char) : Fits pattern (spelledOut pattern) := by
  induction pattern with
  | nil => exact .nil
  | cons p pattern ih =>
    rw [spelledOut, List.flatMap_cons, spelledOutChar]
    split
    · next hrun =>
      subst hrun
      exact ih.runEnd
    · next hrun =>
      split
      · next hany =>
        subst hany
        exact ih.single
      · next hany => exact .literal hrun hany ih

theorem length_spelledOut_le (pattern : List Char) :
    (spelledOut pattern).length ≤ pattern.length := by
  induction pattern with
  | nil => exact Nat.le_refl 0
  | cons p pattern ih =>
    have hone : (spelledOutChar p).length ≤ 1 := by
      unfold spelledOutChar
      split
      · exact Nat.zero_le 1
      · split <;> exact Nat.le_refl 1
    rw [spelledOut, List.flatMap_cons, List.length_append, List.length_cons, Nat.add_comm]
    exact Nat.add_le_add ih hone

/-- **The patterns that look for themselves** are the literal ones. Any other one also finds the text
that spells it out, which does not have it as a part. -/
theorem fitsWithin_iff_infix_iff :
    (∀ text, FitsWithin pattern text ↔ pattern <:+: text) ↔ IsLiteral pattern := by
  constructor
  · intro h
    have hinfix : pattern <:+: spelledOut pattern :=
      (h _).mp ⟨_, List.infix_refl _, fits_spelledOut pattern⟩
    have hsame : pattern = spelledOut pattern :=
      hinfix.eq_of_length_le (length_spelledOut_le pattern)
    exact hsame ▸ isLiteral_spelledOut pattern
  · intro h text
    exact h.fitsWithin_iff

end ResourceApi.Filter
