import Mathlib.Data.List.DropRight
import ResourceApi.Number.Shortest
import ResourceApi.Proofs.Number.Digits
import ResourceApi.Proofs.Number.Rounding
import ResourceApi.Proofs.Text.Trimming

/-!
# Numbers read back from their decimals

The text of a number is the number's own: reading it yields the number again. The digits that are
written are read as the decimal they stand for, a decimal is rounded once however many zeros it is
written with, and the decimal that is chosen for a number is one that is rounded to it.

## Main definitions

- `Decimal.Shows` — a whole part and a fraction show a number

## Main results

- `Decimal.positional_shows` — positional notation shows the number it is made for
- `Decimal.readMagnitude_positional` — positional notation is read as this number, rounded
- `Decimal.toBinary_eq` — a decimal is rounded, also where its exponent settles it in advance
- `Binary.roundUnits_shortest` — the decimal chosen for a number is rounded to it
- `Binary.read_text` — every number but NaN is read from its text
-/

namespace ResourceApi.Number

/-! ## Positional notation -/

namespace Decimal

/-- A whole part and the digits behind the point, without the point where there are none. -/
def pointed (whole fraction : List Char) : List Char :=
  if fraction.isEmpty then whole else whole ++ '.' :: fraction

theorem mem_pointed {whole fraction : List Char} (hwhole : ∀ c ∈ whole, c.isDigit = true)
    (hfraction : ∀ c ∈ fraction, c.isDigit = true) {c : Char} (h : c ∈ pointed whole fraction) :
    c = '.' ∨ c.isDigit = true := by
  rw [pointed] at h
  split at h
  · exact .inr (hwhole c h)
  · rcases List.mem_append.mp h with h | h
    · exact .inr (hwhole c h)
    · exact (List.mem_cons.mp h).imp_right (hfraction c)

/-- The digits of a number behind zeros that make up a length. -/
theorem zeros_natText (n digits : Nat) {all : List Char}
    (h : List.replicate (n - (natText digits).length) '0' ++ natText digits = all) :
    n ≤ all.length ∧ (∀ c ∈ all, c.isDigit = true) ∧ Nat.ofDigitChars 10 all 0 = digits := by
  have hread := readNat_zeros_natText (n - (natText digits).length) digits
  rw [h] at hread
  refine ⟨?_, fun c hc => ?_, (readNat_eq_some_iff.mp hread).2.2⟩
  · rw [← h, List.length_append, List.length_replicate]
    omega
  · rw [← h] at hc
    rcases List.mem_append.mp hc with hzero | hdigit
    · rw [List.eq_of_mem_replicate hzero]
      decide
    · exact isDigit_of_mem_natText hdigit

theorem exists_zeros_behind (cs : List Char) :
    ∃ zeros, cs.rdropWhile (· == '0') ++ List.replicate zeros '0' = cs := by
  refine ⟨(cs.rtakeWhile (· == '0')).length, ?_⟩
  rw [← List.eq_replicate_of_mem fun c hc => by simpa using List.mem_rtakeWhile_imp hc]
  exact List.rdropWhile_append_rtakeWhile

/-- Positional notation shows a number: the digits of its whole part and of its fraction are those of
the number, but for zeros left out at the end. -/
structure Shows (whole fraction : List Char) (digits places : Nat) : Prop where
  whole_ne_nil : whole ≠ []
  whole_digits : ∀ c ∈ whole, c.isDigit = true
  fraction_digits : ∀ c ∈ fraction, c.isDigit = true
  value : ∃ zeros, fraction.length + zeros = places ∧
    Nat.ofDigitChars 10 (whole ++ fraction) 0 * 10 ^ zeros = digits

theorem positional_shows (digits places : Nat) : ∃ whole fraction,
    positional digits places = pointed whole fraction ∧ Shows whole fraction digits places := by
  obtain ⟨all, hall⟩ : ∃ all,
    List.replicate (places + 1 - (natText digits).length) '0' ++ natText digits = all := ⟨_, rfl⟩
  obtain ⟨hlength, hdigits, hvalue⟩ := zeros_natText (places + 1) digits hall
  -- The parts in front of the point and behind it, and the zeros at the end of the latter.
  obtain ⟨whole, hwhole⟩ : ∃ whole, all.take (all.length - places) = whole := ⟨_, rfl⟩
  obtain ⟨behind, hbehind⟩ : ∃ behind, all.drop (all.length - places) = behind := ⟨_, rfl⟩
  obtain ⟨fraction, hfraction⟩ : ∃ fraction, behind.rdropWhile (· == '0') = fraction := ⟨_, rfl⟩
  obtain ⟨zeros, hsplit⟩ := exists_zeros_behind behind
  rw [hfraction] at hsplit
  have hjoined : whole ++ fraction ++ List.replicate zeros '0' = all := by
    rw [List.append_assoc, hsplit, ← hwhole, ← hbehind, List.take_append_drop]
  have hbehindLength : behind.length = places := by
    rw [← hbehind, List.length_drop]
    omega
  have hmem {c : Char} (hc : c ∈ whole ++ fraction) : c.isDigit = true :=
    hdigits c (hjoined ▸ List.mem_append_left _ hc)
  refine ⟨whole, fraction, ?_, ?_, fun c hc => hmem (List.mem_append_left _ hc),
    fun c hc => hmem (List.mem_append_right _ hc), zeros, ?_, ?_⟩
  · rw [positional]
    simp only [hall, hwhole, hbehind]
    rw [← hfraction]
    rfl
  · intro hnil
    have hnone := congrArg List.length hwhole
    rw [hnil, List.length_take, List.length_nil] at hnone
    omega
  · rw [← hbehindLength, ← hsplit, List.length_append, List.length_replicate]
  · rw [← hjoined, Nat.ofDigitChars_append, Nat.ofDigitChars_replicate_zero, Nat.mul_comm] at hvalue
    exact hvalue

/-- Digits with or without a point are read as the decimal that they stand for. -/
theorem read_pointed {whole fraction : List Char} (hne : whole ≠ [])
    (hwhole : ∀ c ∈ whole, c.isDigit = true) (hfraction : ∀ c ∈ fraction, c.isDigit = true) :
    read (pointed whole fraction) =
      some ⟨Nat.ofDigitChars 10 (whole ++ fraction) 0, -(fraction.length : Int)⟩ := by
  have hempty : whole.isEmpty = false := List.isEmpty_eq_false_iff.mpr hne
  cases fraction with
  | nil =>
    have htake : whole.takeWhile Char.isDigit = whole := List.takeWhile_eq_self_iff.mpr hwhole
    have hdrop : whole.dropWhile Char.isDigit = [] := List.dropWhile_eq_nil_iff.mpr hwhole
    rw [pointed, if_pos (by rfl), read]
    simp only [htake, hdrop, hempty]
    rfl
  | cons c fraction =>
    have htake : (whole ++ '.' :: c :: fraction).takeWhile Char.isDigit = whole := by
      rw [List.takeWhile_append_of_pos hwhole, List.takeWhile_cons_of_neg (by decide),
        List.append_nil]
    have hdrop : (whole ++ '.' :: c :: fraction).dropWhile Char.isDigit = '.' :: c :: fraction := by
      rw [List.dropWhile_append_of_pos hwhole, List.dropWhile_cons_of_neg (by decide)]
    have hall : (c :: fraction).takeWhile Char.isDigit = c :: fraction :=
      List.takeWhile_eq_self_iff.mpr hfraction
    have hnone : (c :: fraction).dropWhile Char.isDigit = [] :=
      List.dropWhile_eq_nil_iff.mpr hfraction
    rw [pointed, if_neg (by simp), read]
    simp only [htake, hdrop, hall, hnone, hempty, readExponent]
    simp

/-! ## Rounding a decimal -/

variable {f : Format}

theorem scale_lt (f : Format) : f.scale < 2 ^ f.exponentBits + f.fractionBits := by
  have hhalf : 2 ^ (f.exponentBits - 1) ≤ 2 ^ f.exponentBits :=
    Nat.pow_le_pow_right (by decide) (Nat.sub_le _ _)
  have hpos : 0 < 2 ^ (f.exponentBits - 1) := Nat.two_pow_pos _
  rw [Format.scale, Format.bias, Nat.pow_eq]
  omega

/-- A decimal that lies far below the least positive number is below half a unit. -/
theorem small_of_underflow {n places : Nat}
    (h : -(places : Int) + (natText n).length < -(Nat.pow 2 f.exponentBits + f.fractionBits : Nat)) :
    2 * (n * 2 ^ f.scale) < 10 ^ places := by
  rw [Nat.pow_eq] at h
  have hscale := scale_lt f
  have hdigits : n < 10 ^ (natText n).length :=
    (Nat.length_toDigits_le_iff (by decide) (List.length_pos_iff.mpr (natText_ne_nil n))).mp
      (Nat.le_refl _)
  calc
    2 * (n * 2 ^ f.scale) = n * 2 ^ (f.scale + 1) := by
      rw [Nat.pow_succ, Nat.mul_comm, Nat.mul_assoc]
    _ ≤ n * 10 ^ (f.scale + 1) :=
      Nat.mul_le_mul_left n (Nat.pow_le_pow_left (by decide) _)
    _ < 10 ^ (natText n).length * 10 ^ (f.scale + 1) :=
      Nat.mul_lt_mul_of_pos_right hdigits (Nat.pow_pos (by decide))
    _ = 10 ^ ((natText n).length + (f.scale + 1)) := (Nat.pow_add ..).symm
    _ ≤ 10 ^ places := Nat.pow_le_pow_right (by decide) (by omega)

/-- A decimal with places behind the point is rounded, also where its digits or its exponent settle
in advance what it is rounded to. -/
theorem toBinary_eq (f : Format) (negative : Bool) (n places : Nat) :
    toBinary f negative ⟨n, -(places : Int)⟩ =
      ⟨negative, Binary.roundUnits f (n * 2 ^ f.scale) (10 ^ places)⟩ := by
  have hplaces : 0 < 10 ^ places := Nat.pow_pos (by decide)
  have hsmall (h : 2 * (n * 2 ^ f.scale) < 10 ^ places) : (⟨negative, 0⟩ : Binary f) =
      ⟨negative, Binary.roundUnits f (n * 2 ^ f.scale) (10 ^ places)⟩ := by
    rw [Binary.roundUnits_of_small f h]
  rw [toBinary]
  split
  · next hzero =>
    refine hsmall ?_
    rw [show n = 0 from hzero, Nat.zero_mul, Nat.mul_zero]
    exact hplaces
  · split
    · next hlarge =>
      dsimp only at hlarge
      omega
    · split
      · next hunderflow => exact hsmall (small_of_underflow hunderflow)
      · -- The exponent is a natural number only if there are no places.
        cases places with
        | zero =>
          change Binary.round f negative (n * Nat.pow 10 0) 1 = _
          rw [Binary.round, Nat.pow_eq, Nat.pow_eq, Nat.pow_zero, Nat.mul_one]
        | succ places =>
          change Binary.round f negative n (Nat.pow 10 (places + 1)) = _
          rw [Binary.round, Nat.pow_eq, Nat.pow_eq]

/-! ## Numbers -/

/-- Digits are no word, whose first character is a small letter. -/
theorem lower_ne_word {c first : Char} {cs word : List Char} (hfirst : first.isDigit = false)
    (h : c.isDigit = true) : (Text.lower (c :: cs) == first :: word) = false := by
  rw [beq_eq_false_iff_ne, Text.lower, List.map_cons, Text.toLower_of_isDigit h]
  intro heq
  obtain ⟨rfl, -⟩ := List.cons.inj heq
  rw [h] at hfirst
  cases hfirst

theorem pointed_eq_cons {whole : List Char} (hne : whole ≠ [])
    (hwhole : ∀ c ∈ whole, c.isDigit = true) (fraction : List Char) :
    ∃ c rest, pointed whole fraction = c :: rest ∧ c.isDigit = true := by
  obtain ⟨c, cs, rfl⟩ := List.exists_cons_of_ne_nil hne
  refine ⟨c, if fraction.isEmpty then cs else cs ++ '.' :: fraction, ?_,
    hwhole c (List.mem_cons_self ..)⟩
  rw [pointed]
  split <;> rfl

/-- Positional notation is read as the number that it shows, rounded. -/
theorem readMagnitude_positional (f : Format) (negative : Bool) (digits places : Nat) :
    Binary.readMagnitude f negative (positional digits places) =
      some ⟨negative, Binary.roundUnits f (digits * 2 ^ f.scale) (10 ^ places)⟩ := by
  obtain ⟨whole, fraction, hpositional, hne, hwhole, hfraction, zeros, rfl, rfl⟩ :=
    positional_shows digits places
  have hread := read_pointed hne hwhole hfraction
  obtain ⟨c, rest, hcons, hc⟩ := pointed_eq_cons hne hwhole fraction
  have hpow : 0 < 10 ^ zeros := Nat.pow_pos (by decide)
  rw [hpositional, Binary.readMagnitude]
  simp only [hread]
  rw [hcons]
  have hi : 'i'.isDigit = false := by decide
  have hn : 'n'.isDigit = false := by decide
  simp only [lower_ne_word hi hc, lower_ne_word hn hc, Bool.or_self, Bool.false_eq_true, if_false,
    Option.map_some, toBinary_eq]
  rw [Nat.pow_add, Nat.mul_right_comm, Binary.roundUnits_mul f hpow]

end Decimal

namespace Binary

variable {f : Format}

theorem candidate_rounds {x : Binary f} {num den places digits : Nat}
    (h : candidate x num den places = some digits) :
    roundUnits f (digits * 2 ^ f.scale) (10 ^ places) = x.magnitude := by
  rw [candidate] at h
  simp only [Nat.pow_eq, beq_iff_eq] at h
  -- Either candidate is only taken if it reads back.
  repeat' split at h
  all_goals grind

/-- The decimal chosen for a finite number is rounded to it. -/
theorem roundUnits_shortest {x : Binary f} (h : x.isFinite = true) :
    roundUnits f (x.shortest.1 * 2 ^ f.scale) (10 ^ x.shortest.2) = x.magnitude := by
  have hfinite : x.magnitude ≤ f.infinity := Nat.le_of_lt (of_decide_eq_true h)
  rw [shortest]
  dsimp only
  split
  · next hzero =>
    have hnone : x.magnitude ≤ 0 := hzero ▸ le_units f x.magnitude
    rw [Nat.le_zero.mp hnone]
    exact roundUnits_of_small f (by simp)
  · split
    · next found hfound =>
      obtain ⟨k, -, hk⟩ := List.exists_of_findSome?_eq_some hfound
      obtain ⟨digits, hdigits, rfl⟩ := Option.map_eq_some_iff.mp hk
      exact candidate_rounds hdigits
    · -- The exact expansion of the number.
      have hten : Nat.pow 5 f.scale * 2 ^ f.scale = 10 ^ f.scale := by
        rw [Nat.pow_eq, ← Nat.mul_pow]
      rw [Nat.mul_assoc, hten]
      exact roundUnits_units f (Nat.pow_pos (by decide)) hfinite

/-- The text of a number without its sign. -/
theorem read_sign_positional (negative : Bool) (digits places : Nat) :
    read f ((if negative then ['-'] else []) ++ Decimal.positional digits places) =
      readMagnitude f negative (Decimal.positional digits places) := by
  cases negative with
  | true => rfl
  | false =>
    obtain ⟨whole, fraction, hpositional, hshows⟩ := Decimal.positional_shows digits places
    obtain ⟨c, rest, hcons, hc⟩ :=
      Decimal.pointed_eq_cons hshows.whole_ne_nil hshows.whole_digits fraction
    rw [hpositional, hcons]
    unfold read
    -- A digit is no sign.
    split
    · next heq => exact absurd ((List.cons.inj heq).1 ▸ hc) (by decide)
    · next heq => exact absurd ((List.cons.inj heq).1 ▸ hc) (by decide)
    · rfl

/-- A finite number without a minus sign is written with digits and a point. -/
theorem eq_or_isDigit_of_mem_text {x : Binary f} (hfinite : x.isFinite = true)
    (hsign : x.negative = false) {c : Char} (h : c ∈ x.text.toList) : c = '.' ∨ c.isDigit = true := by
  have hnumber : x.isNaN = false := by
    have := of_decide_eq_true hfinite
    exact decide_eq_false (by omega)
  obtain ⟨whole, fraction, hpositional, hshows⟩ :=
    Decimal.positional_shows x.shortest.1 x.shortest.2
  rw [text, hnumber, hsign, hfinite] at h
  simp only [Bool.false_eq_true, if_false, if_true, List.nil_append, String.toList_ofList,
    hpositional] at h
  exact Decimal.mem_pointed hshows.whole_digits hshows.fraction_digits h

/-- **Every number but NaN is read from its text.** -/
theorem read_text {x : Binary f} (h : x.isNaN = false) : read f x.text.toList = some x := by
  rw [text, h]
  simp only [Bool.false_eq_true, if_false]
  by_cases hfinite : x.isFinite = true
  · rw [if_pos hfinite, String.toList_ofList, read_sign_positional,
      Decimal.readMagnitude_positional, roundUnits_shortest hfinite]
  · have hinfinite : x.magnitude = f.infinity := by
      have hle : ¬f.infinity < x.magnitude := of_decide_eq_false h
      have hge : ¬x.magnitude < f.infinity := fun hlt => hfinite (decide_eq_true hlt)
      omega
    rw [if_neg hfinite, String.toList_ofList]
    obtain ⟨negative, magnitude⟩ := x
    subst hinfinite
    cases negative <;> rfl

end Binary

end ResourceApi.Number
