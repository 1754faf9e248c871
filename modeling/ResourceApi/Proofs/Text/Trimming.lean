import Mathlib.Data.List.DropRight
import Mathlib.Data.List.TakeWhile
import ResourceApi.Text.Ascii
import ResourceApi.Text.Blank

/-!
# Blanks, digits and small letters

Trimming takes the blanks off both ends of a text, and folding turns capitals into small letters.
What has been trimmed and folded once stays as it is, and folding neither brings in nor takes away
blanks or separators.

## Main definitions

- `Trimmed` — a text with no blank at either end

## Main results

- `toNat_of_isDigit`, `not_blank_of_isDigit`, `toLower_of_isDigit` — digits
- `toLower_cases` — a capital becomes its small letter, and every other character stays
- `trimmed_trim`, `Trimmed.trim_eq` — trimming
- `Trimmed.lower`, `lower_lower`, `not_mem_lower` — folding
-/

namespace ResourceApi.Text

/-! ## Characters -/

/-- A capital becomes the small letter behind it; every other character stays. -/
theorem toLower_cases (c : Char) : c.toLower = c ∨
    (65 ≤ c.toNat ∧ c.toNat ≤ 90 ∧ c.toLower.toNat = c.toNat + 32) := by
  by_cases h : c.val ≥ 'A'.val ∧ c.val ≤ 'Z'.val
  · have h65 : 65 ≤ c.toNat := UInt32.le_iff_toNat_le.mp h.1
    have h90 : c.toNat ≤ 90 := UInt32.le_iff_toNat_le.mp h.2
    refine .inr ⟨h65, h90, ?_⟩
    have hval : c.toLower.val = c.val + 32 := congrArg Char.val (dif_pos h)
    change c.toLower.val.toNat = c.val.toNat + 32
    rw [hval, UInt32.toNat_add]
    change c.val.toNat ≤ 90 at h90
    change (c.val.toNat + 32) % 2 ^ 32 = c.val.toNat + 32
    omega
  · exact .inl (dif_neg h)

theorem toLower_toLower (c : Char) : c.toLower.toLower = c.toLower := by
  rcases toLower_cases c with h | ⟨hlow, -, h⟩
  · rw [h, h]
  · rcases toLower_cases c.toLower with h' | ⟨-, h', -⟩
    · exact h'
    · omega

/-- The visible characters of ASCII are no blanks. -/
theorem not_blank_of_visible {c : Char} (hlow : 0x21 ≤ c.toNat) (hhigh : c.toNat ≤ 0x7E) :
    isBlank c = false := by
  simp only [isBlank, blankRanges, List.any_cons, List.any_nil, Bool.or_false,
    Bool.or_eq_false_iff, Bool.and_eq_false_iff, decide_eq_false_iff_not]
  omega

theorem isBlank_toLower (c : Char) : isBlank c.toLower = isBlank c := by
  rcases toLower_cases c with h | ⟨hlow, hhigh, h⟩
  · rw [h]
  · rw [not_blank_of_visible (by omega) (by omega), not_blank_of_visible (by omega) (by omega)]

theorem toNat_of_isDigit {c : Char} (h : c.isDigit = true) : 48 ≤ c.toNat ∧ c.toNat ≤ 57 := by
  simpa [Char.isDigit, UInt32.le_iff_toNat_le] using h

theorem not_blank_of_isDigit {c : Char} (h : c.isDigit = true) : isBlank c = false := by
  obtain ⟨hlow, hhigh⟩ := toNat_of_isDigit h
  exact not_blank_of_visible (by omega) (by omega)

theorem toLower_of_isDigit {c : Char} (h : c.isDigit = true) : c.toLower = c := by
  obtain ⟨hlow, hhigh⟩ := toNat_of_isDigit h
  rcases toLower_cases c with hsame | ⟨hcapital, -, -⟩
  · exact hsame
  · omega

/-! ## Folding -/

theorem lower_lower (cs : List Char) : lower (lower cs) = lower cs := by
  rw [lower, lower, List.map_map]
  exact List.map_congr_left fun c _ => toLower_toLower c

/-- Folding brings in small letters only. -/
theorem not_mem_lower {sep : Char} (hsep : ¬(97 ≤ sep.toNat ∧ sep.toNat ≤ 122)) {cs : List Char}
    (h : sep ∉ cs) : sep ∉ lower cs := by
  intro hmem
  obtain ⟨c, hc, hfolded⟩ := List.mem_map.mp hmem
  rcases toLower_cases c with hsame | ⟨hlow, hhigh, hsmall⟩
  · exact h (hfolded ▸ hsame.symm ▸ hc)
  · rw [hfolded] at hsmall
    omega

/-! ## Trimming -/

/-- A text with no blank at either end. -/
structure Trimmed (cs : List Char) : Prop where
  first : ∀ c ∈ cs.head?, isBlank c = false
  last : ∀ c ∈ cs.getLast?, isBlank c = false

theorem trim_eq_rdropWhile (cs : List Char) :
    trim cs = (cs.dropWhile isBlank).rdropWhile isBlank := rfl

theorem mem_of_mem_trim {c : Char} {cs : List Char} (h : c ∈ trim cs) : c ∈ cs := by
  rw [trim_eq_rdropWhile] at h
  exact (List.dropWhile_sublist _).subset ((List.rdropWhile_prefix _ _).subset h)

theorem not_mem_lower_trim {sep : Char} (hsep : ¬(97 ≤ sep.toNat ∧ sep.toNat ≤ 122))
    {cs : List Char} (h : sep ∉ cs) : sep ∉ lower (trim cs) :=
  not_mem_lower hsep fun hmem => h (mem_of_mem_trim hmem)

theorem trimmed_of_forall {cs : List Char} (h : ∀ c ∈ cs, isBlank c = false) : Trimmed cs :=
  ⟨fun c hc => h c (List.mem_of_mem_head? hc), fun c hc => h c (List.mem_of_mem_getLast? hc)⟩

theorem trimmed_trim (cs : List Char) : Trimmed (trim cs) := by
  rw [trim_eq_rdropWhile]
  constructor
  · intro c hc
    -- What is left starts as it did before its end was taken off.
    obtain ⟨kept, hkept⟩ := List.head?_eq_some_iff.mp hc
    obtain ⟨dropped, hdropped⟩ := List.rdropWhile_prefix isBlank (cs.dropWhile isBlank)
    have hnot := List.head?_dropWhile_not isBlank cs
    rw [← hdropped, hkept] at hnot
    exact hnot
  · intro c hc
    obtain ⟨hne, rfl⟩ := List.mem_getLast?_eq_getLast hc
    exact Bool.eq_false_iff.mpr (List.rdropWhile_last_not _ _ hne)

theorem Trimmed.trim_eq {cs : List Char} (h : Trimmed cs) : trim cs = cs := by
  have hfirst : cs.dropWhile isBlank = cs := by
    cases cs with
    | nil => rfl
    | cons c cs => rw [List.dropWhile_cons_of_neg (by simp [h.first c rfl])]
  rw [trim_eq_rdropWhile, hfirst, List.rdropWhile_eq_self_iff]
  intro hne
  simp [h.last _ (List.getLast?_eq_some_getLast hne)]

theorem Trimmed.lower {cs : List Char} (h : Trimmed cs) : Trimmed (lower cs) := by
  constructor
  · intro c hc
    rw [Text.lower, List.head?_map] at hc
    obtain ⟨c, hcs, rfl⟩ := Option.map_eq_some_iff.mp hc
    rw [isBlank_toLower]
    exact h.first c hcs
  · intro c hc
    rw [Text.lower, List.getLast?_map] at hc
    obtain ⟨c, hcs, rfl⟩ := Option.map_eq_some_iff.mp hc
    rw [isBlank_toLower]
    exact h.last c hcs

/-- Two trimmed texts with something between them. -/
theorem Trimmed.append {front back : List Char} (hfront : Trimmed front) (hback : Trimmed back)
    (hne : front ≠ []) (hne' : back ≠ []) (middle : List Char) :
    Trimmed (front ++ middle ++ back) := by
  constructor
  · rw [List.append_assoc, List.head?_append_of_ne_nil _ hne]
    exact hfront.first
  · rw [List.getLast?_append_of_ne_nil _ hne']
    exact hback.last

end ResourceApi.Text
