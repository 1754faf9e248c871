import Mathlib.Data.List.Forall2
import ResourceApi.Filter.Pattern

/-!
# The matcher decides what patterns fit

The matcher goes back to the last run it has passed, and never to an earlier one. That is enough:
what stands between two runs is tried at the first place behind the earlier one where it fits, and
the later run takes any characters more that another place would leave out. The matcher comes to an
end because it never loses what it has gained: the last run moves on in the pattern, or it takes
more of the text, or the place in the pattern moves on.

## Main definitions

- `StandsFor` — what one character of a pattern may stand for
- `Cursor.Sound` — what is known of a text and a pattern where the matcher stands
- `Cursor.turnsLeft` — how many turns the matcher takes at most from a cursor on
- `Cursor.Furthers` — what a turn does for the matcher

## Main results

- `fits_iff_parts` — a pattern fits the texts that consist of what its characters stand for
- `Cursor.turn_furthers` — a turn brings the matcher nearer to its answer, or is the answer
- `like_iff` — the matcher says yes exactly where the pattern fits
- `matcher_answers` — the matcher has this answer in time
-/

namespace ResourceApi.Filter

/-! ## How the parts of a pattern fit -/

theorem fits_nil_iff {text : List Char} : Fits [] text ↔ text = [] := by
  constructor
  · intro h
    cases h
    rfl
  · rintro rfl
    exact .nil

/-- What fits behind a run also fits when the run takes more. -/
theorem Fits.run {pattern text : List Char} (h : Fits ('%' :: pattern) text) (skipped : List Char) :
    Fits ('%' :: pattern) (skipped ++ text) := by
  induction skipped with
  | nil => exact h
  | cons c skipped ih => exact ih.runStep

/-- A run takes all but some end of the text. -/
theorem fits_run_iff {pattern text : List Char} :
    Fits ('%' :: pattern) text ↔ ∃ rest, rest <:+ text ∧ Fits pattern rest := by
  constructor
  · intro h
    generalize hp : '%' :: pattern = whole at h
    induction h with
    | nil => cases hp
    | runEnd h =>
      obtain ⟨-, rfl⟩ := List.cons.inj hp
      exact ⟨_, List.suffix_refl _, h⟩
    | runStep h ih =>
      obtain ⟨rest, hrest, hfits⟩ := ih hp
      exact ⟨rest, hrest.trans (List.suffix_cons _ _), hfits⟩
    | single h => exact absurd (List.cons.inj hp).1 (by decide)
    | literal hrun _ h => exact absurd (List.cons.inj hp).1.symm hrun
  · rintro ⟨rest, ⟨skipped, rfl⟩, hfits⟩
    exact hfits.runEnd.run skipped

/-- A run takes nothing, or one character and then as much as it likes. -/
theorem fits_run_cons_iff {pattern text : List Char} {c : Char} :
    Fits ('%' :: pattern) (c :: text) ↔ Fits pattern (c :: text) ∨ Fits ('%' :: pattern) text := by
  constructor
  · intro h
    obtain ⟨rest, hrest, hfits⟩ := fits_run_iff.mp h
    rcases List.suffix_cons_iff.mp hrest with rfl | hrest
    · exact .inl hfits
    · exact .inr (fits_run_iff.mpr ⟨rest, hrest, hfits⟩)
  · rintro (h | h)
    · exact h.runEnd
    · exact h.runStep

/-- Any other character of a pattern takes one character. -/
theorem fits_cons_iff {p : Char} (hp : p ≠ '%') {pattern text : List Char} {c : Char} :
    Fits (p :: pattern) (c :: text) ↔ (p = '_' ∨ p = c) ∧ Fits pattern text := by
  constructor
  · intro h
    cases h with
    | runEnd h => exact absurd rfl hp
    | runStep h => exact absurd rfl hp
    | single h => exact ⟨.inl rfl, h⟩
    | literal _ _ h => exact ⟨.inr rfl, h⟩
  · rintro ⟨htakes, hfits⟩
    by_cases hany : p = '_'
    · subst hany
      exact hfits.single
    · obtain rfl : p = c := htakes.resolve_left hany
      exact .literal hp hany hfits

theorem not_fits_nil {p : Char} (hp : p ≠ '%') {pattern : List Char} :
    ¬ Fits (p :: pattern) [] := by
  intro h
  cases h
  exact hp rfl

/-- Any other character of a pattern leaves all but one character to the rest of the pattern. -/
theorem Fits.behind {p : Char} (hp : p ≠ '%') {pattern text : List Char}
    (h : Fits (p :: pattern) text) : Fits pattern (text.drop 1) := by
  cases text with
  | nil => exact absurd h (not_fits_nil hp)
  | cons c text => exact ((fits_cons_iff hp).mp h).2

/-- Only runs fit where the text is at its end. -/
theorem fits_end_iff {pattern : List Char} : Fits pattern [] ↔ pattern.all (· == '%') := by
  induction pattern with
  | nil => simp [fits_nil_iff]
  | cons p pattern ih =>
    by_cases hp : p = '%'
    · subst hp
      rw [fits_run_iff]
      simp [List.suffix_nil, ih]
    · simp [not_fits_nil hp, hp]

/-! ## What the characters of a pattern stand for -/

/-- What one character of a pattern may stand for. -/
inductive StandsFor : Char → List Char → Prop where
  /-- Any run of characters, also an empty one. -/
  | run (part : List Char) : StandsFor '%' part
  /-- Exactly one character. -/
  | single (c : Char) : StandsFor '_' [c]
  /-- Only itself. -/
  | literal {c : Char} : c ≠ '%' → c ≠ '_' → StandsFor c [c]

/-- **What a pattern fits**: the texts that consist of what its characters stand for. -/
theorem fits_iff_parts {pattern text : List Char} :
    Fits pattern text ↔ ∃ parts, List.Forall₂ StandsFor pattern parts ∧ parts.flatten = text := by
  constructor
  · intro h
    induction h with
    | nil => exact ⟨[], .nil, rfl⟩
    | runEnd _ ih =>
      obtain ⟨parts, hparts, rfl⟩ := ih
      exact ⟨[] :: parts, .cons (.run _) hparts, rfl⟩
    | @runStep pattern c text _ ih =>
      -- The run that the rest of the text starts with takes one character more.
      obtain ⟨parts, hparts, rfl⟩ := ih
      cases hparts with
      | @cons _ part _ parts _ hparts => exact ⟨(c :: part) :: parts, .cons (.run _) hparts, rfl⟩
    | @single pattern c text _ ih =>
      obtain ⟨parts, hparts, rfl⟩ := ih
      exact ⟨[c] :: parts, .cons (.single c) hparts, rfl⟩
    | @literal pattern c text hrun hany _ ih =>
      obtain ⟨parts, hparts, rfl⟩ := ih
      exact ⟨[c] :: parts, .cons (.literal hrun hany) hparts, rfl⟩
  · rintro ⟨parts, hparts, rfl⟩
    induction hparts with
    | nil => exact .nil
    | @cons p part pattern parts hstands _ ih =>
      rw [List.flatten_cons]
      cases hstands with
      | run => exact ih.runEnd.run part
      | single c => exact ih.single
      | literal hrun hany => exact .literal hrun hany ih

/-! ## What is known where the matcher stands -/

/-- What is known behind a run: what stands between the run and the matcher fits here, it has no
runs in it, and how much the run takes before it decides whether the whole pattern fits. -/
structure Run.Sound (text pattern : List Char) (run : Run) (v p : Nat) : Prop where
  isRun : pattern[run.place]? = some '%'
  place_lt : run.place < p
  upTo_le : run.upTo ≤ v
  here : Fits (pattern.drop (run.place + 1)) (text.drop run.upTo) ↔
    Fits (pattern.drop p) (text.drop v)
  /-- Wherever it fits, it takes as many characters as here. -/
  later : ∀ rest, Fits (pattern.drop (run.place + 1)) rest →
    Fits (pattern.drop p) (rest.drop (v - run.upTo))
  whole : Fits pattern text ↔ Fits (pattern.drop run.place) (text.drop run.upTo)

namespace Cursor

variable {text pattern : List Char} {c : Cursor}

/-- What is known where the matcher stands. Before the first run there is one way only to come here,
so what is left decides. -/
def Sound (text pattern : List Char) (c : Cursor) : Prop :=
  c.pattern ≤ pattern.length ∧ match c.run? with
    | none => Fits pattern text ↔ Fits (pattern.drop c.pattern) (text.drop c.text)
    | some run => run.Sound text pattern c.text c.pattern

theorem drop_of_getElem? {cs : List Char} {i : Nat} {x : Char} (h : cs[i]? = some x) :
    cs.drop i = x :: cs.drop (i + 1) := by
  obtain ⟨hi, rfl⟩ := List.getElem?_eq_some_iff.mp h
  exact List.drop_eq_getElem_cons hi

theorem sound_start (text pattern : List Char) : start.Sound text pattern :=
  ⟨Nat.zero_le _, Iff.rfl⟩

/-- What is left decides, if what the matcher has passed may have been passed anywhere: whatever
fits some end of the text that is left fits all that is left. -/
theorem Sound.left_decides (h : c.Sound text pattern)
    (hends : ∀ rest, rest <:+ text.drop c.text → Fits (pattern.drop c.pattern) rest →
      Fits (pattern.drop c.pattern) (text.drop c.text)) :
    Fits pattern text ↔ Fits (pattern.drop c.pattern) (text.drop c.text) := by
  obtain ⟨v, p, run?⟩ := c
  obtain ⟨-, h⟩ := h
  cases run? with
  | none => exact h
  | some run =>
    have hrun := drop_of_getElem? h.isRun
    constructor
    · intro hfits
      rw [h.whole, hrun, fits_run_iff] at hfits
      obtain ⟨rest, hrest, hfits⟩ := hfits
      -- Another place leaves no more of the text than this one.
      refine hends _ ?_ (h.later rest hfits)
      have hlength := hrest.length_le
      rw [List.length_drop] at hlength
      refine List.suffix_of_suffix_length_le ((List.drop_suffix _ _).trans hrest) ?_ ?_
      · rw [← Nat.add_sub_of_le h.upTo_le, ← List.drop_drop]
        exact List.drop_suffix _ _
      · rw [List.length_drop, List.length_drop]
        omega
    · intro hfits
      rw [h.whole, hrun]
      exact (h.here.mpr hfits).runEnd

theorem Sound.passRun (h : c.Sound text pattern) (hp : pattern[c.pattern]? = some '%') :
    c.passRun.Sound text pattern := by
  obtain ⟨hlt, -⟩ := List.getElem?_eq_some_iff.mp hp
  have hdecides : Fits pattern text ↔ Fits (pattern.drop c.pattern) (text.drop c.text) := by
    refine h.left_decides fun rest hrest hfits => ?_
    obtain ⟨skipped, hskipped⟩ := hrest
    rw [drop_of_getElem? hp] at hfits ⊢
    exact hskipped ▸ hfits.run skipped
  obtain ⟨v, p, run?⟩ := c
  refine ⟨hlt, hp, Nat.lt_succ_self p, Nat.le_refl v, Iff.rfl, fun rest hfits => ?_, hdecides⟩
  have hnone : v - v = 0 := Nat.sub_self v
  exact hnone ▸ hfits

theorem Sound.advance (h : c.Sound text pattern) {p x : Char} (hp : pattern[c.pattern]? = some p)
    (hrun : p ≠ '%') (hx : text[c.text]? = some x) (htakes : p = '_' ∨ p = x) :
    c.advance.Sound text pattern := by
  obtain ⟨hlt, -⟩ := List.getElem?_eq_some_iff.mp hp
  have hstep : Fits (pattern.drop c.pattern) (text.drop c.text) ↔
      Fits (pattern.drop (c.pattern + 1)) (text.drop (c.text + 1)) := by
    rw [drop_of_getElem? hp, drop_of_getElem? hx, fits_cons_iff hrun, and_iff_right htakes]
  obtain ⟨v, q, run?⟩ := c
  obtain ⟨-, h⟩ := h
  refine ⟨hlt, ?_⟩
  cases run? with
  | none => exact h.trans hstep
  | some run =>
    refine ⟨h.isRun, Nat.lt_succ_of_lt h.place_lt, Nat.le_succ_of_le h.upTo_le,
      h.here.trans hstep, fun rest hfits => ?_, h.whole⟩
    have hbehind := h.later rest hfits
    rw [drop_of_getElem? hp] at hbehind
    have hone := hbehind.behind hrun
    rwa [List.drop_drop, ← Nat.sub_add_comm h.upTo_le] at hone

/-! ## The turns that are left -/

/-- How many turns the matcher takes at most from a cursor on. What counts first is how many places
there are for another run, then how much of the text the last run may still take, then how far it is
to the end of the pattern. -/
def turnsLeft (text pattern : List Char) (c : Cursor) : Nat :=
  (c.run?.elim pattern.length (fun run => pattern.length - (run.place + 1)) * (text.length + 1) +
      c.run?.elim text.length fun run => text.length - run.upTo) * (pattern.length + 1) +
    (pattern.length - c.pattern)

/-- Of two numbers of two digits the one with the smaller first digit is smaller. -/
theorem digits_lt {a b c d n : Nat} (h : a < b) (hc : c ≤ n) :
    a * (n + 1) + c < b * (n + 1) + d := by
  have hcarry : (a + 1) * (n + 1) ≤ b * (n + 1) := Nat.mul_le_mul_right _ h
  rw [Nat.succ_mul] at hcarry
  omega

theorem Sound.turnsLeft_passRun (h : c.Sound text pattern) (hp : c.pattern < pattern.length) :
    c.passRun.turnsLeft text pattern < c.turnsLeft text pattern := by
  have hplaces : pattern.length - (c.pattern + 1) <
      c.run?.elim pattern.length fun run => pattern.length - (run.place + 1) := by
    obtain ⟨v, p, run?⟩ := c
    cases run? with
    | none => exact Nat.sub_lt_self (Nat.succ_pos _) hp
    | some run =>
      have hplace : run.place < p := h.2.place_lt
      exact Nat.sub_lt_sub_left (Nat.lt_of_le_of_lt hplace hp) (Nat.succ_lt_succ hplace)
  exact digits_lt (digits_lt hplaces (Nat.sub_le ..)) (Nat.sub_le ..)

theorem turnsLeft_advance (hp : c.pattern < pattern.length) :
    c.advance.turnsLeft text pattern < c.turnsLeft text pattern :=
  Nat.add_lt_add_left (Nat.sub_lt_sub_left hp (Nat.lt_succ_self _)) _

/-- A turn furthers the matcher: it leads to a cursor with fewer turns left, or to the answer. -/
inductive Furthers (text pattern : List Char) (c : Cursor) : Turn → Prop where
  | nearer {next : Cursor} : next.Sound text pattern →
      next.turnsLeft text pattern < c.turnsLeft text pattern → Furthers text pattern c (.go next)
  | answer {fits : Bool} : (fits ↔ Fits pattern text) → Furthers text pattern c (.stop fits)

/-- Where what is left does not fit, the last run has to take more. -/
theorem Sound.furthers_retry (h : c.Sound text pattern) (hv : c.text < text.length)
    (hmiss : ¬ Fits (pattern.drop c.pattern) (text.drop c.text)) :
    c.Furthers text pattern c.retry := by
  obtain ⟨v, p, run?⟩ := c
  obtain ⟨-, h⟩ := h
  cases run? with
  | none => exact .answer ((iff_of_false Bool.false_ne_true (mt h.mp hmiss)))
  | some run =>
    obtain ⟨hplace, -⟩ := List.getElem?_eq_some_iff.mp h.isRun
    have hmore : run.upTo < text.length := Nat.lt_of_le_of_lt h.upTo_le hv
    -- What stands behind the run fits nowhere where the run takes as much as it has taken.
    have hwhole : Fits pattern text ↔
        Fits (pattern.drop run.place) (text.drop (run.upTo + 1)) := by
      have hnot := mt h.here.mp hmiss
      rw [List.drop_eq_getElem_cons hmore] at hnot
      rw [h.whole, List.drop_eq_getElem_cons hmore, drop_of_getElem? h.isRun, fits_run_cons_iff,
        or_iff_right hnot]
    have hless : text.length - (run.upTo + 1) < text.length - run.upTo :=
      Nat.sub_lt_sub_left hmore (Nat.lt_succ_self _)
    refine .nearer ⟨hplace, h.isRun, Nat.lt_succ_self _, Nat.le_refl _, Iff.rfl,
      fun rest hfits => ?_, hwhole⟩ (digits_lt (Nat.add_lt_add_left hless _) (Nat.sub_le ..))
    rwa [Nat.sub_self]

/-- **A turn** stays inside of text and pattern, and furthers the matcher. -/
theorem turn_furthers (h : c.Sound text pattern) :
    ∃ t, c.turn text.toArray pattern.toArray = .ok t ∧ c.Furthers text pattern t := by
  have hpattern : c.pattern ≤ pattern.length := h.1
  by_cases hv : c.text < text.length
  · have hx : text[c.text]? = some text[c.text] := List.getElem?_eq_getElem hv
    cases hp : pattern[c.pattern]? with
    | none =>
      have hend : pattern.drop c.pattern = [] :=
        List.drop_eq_nil_of_le (List.getElem?_eq_none_iff.mp hp)
      refine ⟨c.retry, by simp [turn, hv, hp], h.furthers_retry hv ?_⟩
      rw [hend, fits_nil_iff, drop_of_getElem? hx]
      exact List.cons_ne_nil _ _
    | some p =>
      obtain ⟨hlt, -⟩ := List.getElem?_eq_some_iff.mp hp
      by_cases hrun : p = '%'
      · subst hrun
        exact ⟨_, by simp [turn, hv, hp], .nearer (h.passRun hp) (h.turnsLeft_passRun hlt)⟩
      by_cases hany : p = '_'
      · exact ⟨_, by simp [turn, hv, hp, hany],
          .nearer (h.advance hp hrun hx (.inl hany)) (turnsLeft_advance hlt)⟩
      by_cases hsame : p = text[c.text]
      · exact ⟨_, by simp [turn, hv, hp, hrun, hany, charAt, ← hsame, bind, Except.bind],
          .nearer (h.advance hp hrun hx (.inr hsame)) (turnsLeft_advance hlt)⟩
      · refine ⟨c.retry, by simp [turn, hv, hp, hrun, hany, charAt, hsame, bind, Except.bind],
          h.furthers_retry hv ?_⟩
        rw [drop_of_getElem? hp, drop_of_getElem? hx, fits_cons_iff hrun]
        exact fun hfits => hfits.1.elim hany hsame
  · -- The text is at its end, so no other place leaves anything else of it.
    have hend : text.drop c.text = [] := List.drop_eq_nil_of_le (Nat.not_lt.mp hv)
    have hdecides := h.left_decides fun rest hrest hfits => by
      rw [hend, List.suffix_nil] at hrest
      rwa [hend, ← hrest]
    refine ⟨.stop ((pattern.drop c.pattern).all (· == '%')), ?_, .answer ?_⟩
    · simp [turn, hv, charsFrom, hpattern, bind, Except.bind]
    · rw [hdecides, hend, fits_end_iff]

end Cursor

/-! ## The answer -/

/-- By induction on the turns: each one leaves the matcher with fewer of them to take. -/
theorem answer?_of_sound {text pattern : List Char} {turns : Nat} {c : Cursor}
    (h : c.Sound text pattern) (hturns : c.turnsLeft text pattern < turns) :
    ∃ fits, answer? text.toArray pattern.toArray turns c = some (.ok fits) ∧
      (fits ↔ Fits pattern text) := by
  induction turns generalizing c with
  | zero => exact absurd hturns (Nat.not_lt_zero _)
  | succ turns ih =>
    rw [answer?]
    obtain ⟨t, hturn, hfurthers⟩ := Cursor.turn_furthers h
    rw [hturn]
    cases hfurthers with
    | nearer hsound hless => exact ih hsound (by omega)
    | answer hfits => exact ⟨_, rfl, hfits⟩

theorem turnsLeft_start (text pattern : List Char) :
    Cursor.start.turnsLeft text pattern < maxTurns text.toArray pattern.toArray := by
  have hmax : maxTurns text.toArray pattern.toArray =
      (pattern.length * (text.length + 1) + text.length + 1) * (pattern.length + 1) := by
    rw [maxTurns, List.size_toArray, List.size_toArray, Nat.succ_mul pattern.length]
    rfl
  rw [hmax, Nat.succ_mul]
  exact Nat.lt_succ_self _

/-- The matcher has the same answer whatever more turns it is given. -/
theorem answer?_start (text pattern : List Char) (more : Nat) :
    ∃ fits, answer? text.toArray pattern.toArray
        (maxTurns text.toArray pattern.toArray + more) .start = some (.ok fits) ∧
      (fits ↔ Fits pattern text) :=
  answer?_of_sound (Cursor.sound_start text pattern)
    (Nat.lt_add_right more (turnsLeft_start text pattern))

/-- **The matcher decides what patterns fit.** -/
theorem like_iff {text pattern : List Char} : like text pattern ↔ Fits pattern text := by
  obtain ⟨fits, hanswer, hfits⟩ := answer?_start text pattern 0
  rw [Nat.add_zero] at hanswer
  rw [like, hanswer]
  exact hfits

/-- **The matcher answers**: it comes to an end, without a look outside of text and pattern, and its
answer is whether the text consists of what the characters of the pattern stand for. -/
theorem matcher_answers (text pattern : List Char) :
    (∀ more, answer? text.toArray pattern.toArray
        (maxTurns text.toArray pattern.toArray + more) .start = some (.ok (like text pattern))) ∧
      (like text pattern ↔
        ∃ parts, List.Forall₂ StandsFor pattern parts ∧ parts.flatten = text) := by
  refine ⟨fun more => ?_, like_iff.trans fits_iff_parts⟩
  obtain ⟨fits, hanswer, hfits⟩ := answer?_start text pattern more
  have hsame : fits = like text pattern := Bool.eq_iff_iff.mpr (hfits.trans like_iff.symm)
  rw [hanswer, hsame]

/-- The second run takes one character more than where the rest seems to fit at first. -/
example : like "baaab".toList "%b%aab".toList = true := by decide

end ResourceApi.Filter
